import ForgeRL.Research.Account
import ForgeRL.Research.Study

namespace ForgeRL.Research

open Library

/-!
# The requests of a tree

A branch of a tree sends one request, and the tree has two branches at every
episode, so the number of its requests is at most that of the edges of a binary
tree.  A refused reservation is noted in the variables that all branches share.
Nothing is noted over it, because every loop that is still open stops there.
-/

/-! ## What is added to a log -/

namespace Occurrence

def isRequest : Occurrence → Bool
  | request _ _ _ => true
  | _ => false

/-- A request whose reservation is refused. -/
def Refused : Occurrence → Prop
  | request _ _ (.budgetExceeded _) => True
  | _ => False

end Occurrence

/-- The number of the requests of a log. -/
def calls (log : List Occurrence) : ℕ := log.countP Occurrence.isRequest

/-- After a refused reservation nothing is requested. -/
def Orderly (log : List Occurrence) : Prop :=
  log.Pairwise fun earlier later => earlier.Refused → later.isRequest = false

/-- A log has grown by a number of requests at most; of these the last one is
refused only under a condition. -/
def Adds (limit : ℕ) (refused : Prop) (log later : List Occurrence) : Prop :=
  ∃ segment, later = log ++ segment ∧ calls segment ≤ limit ∧ Orderly segment ∧
    ∀ occurrence ∈ segment, occurrence.Refused → refused

section Logs

variable {limit more : ℕ} {refused : Prop} {log between later : List Occurrence}

theorem Occurrence.Refused.isRequest {occurrence : Occurrence} (refused : occurrence.Refused) :
    occurrence.isRequest = true := by
  cases occurrence with
  | request policy sent outcome => rfl
  | _ => cases refused

theorem calls_append (first second : List Occurrence) :
    calls (first ++ second) = calls first + calls second := List.countP_append

theorem isRequest_of_calls {segment : List Occurrence} (silent : calls segment = 0) :
    ∀ occurrence ∈ segment, occurrence.isRequest = false := by
  intro occurrence member
  exact Bool.eq_false_iff.mpr (List.countP_eq_zero.mp silent occurrence member)

theorem Adds.refl (refused : Prop) (log : List Occurrence) : Adds 0 refused log log :=
  ⟨[], (List.append_nil log).symm, le_rfl, .nil, fun _ member => absurd member List.not_mem_nil⟩

theorem Adds.mono {wider : ℕ} {weaker : Prop} (adds : Adds limit refused log later)
    (within : limit ≤ wider) (condition : refused → weaker) : Adds wider weaker log later := by
  rcases adds with ⟨segment, grown, few, orderly, only⟩
  exact ⟨segment, grown, few.trans within, orderly,
    fun occurrence member also => condition (only occurrence member also)⟩

/-- What follows a segment without a refusal. -/
theorem Adds.next (first : Adds limit False log between) (second : Adds more refused between later) :
    Adds (limit + more) refused log later := by
  rcases first with ⟨segment, grown, few, orderly, none_⟩
  rcases second with ⟨rest, grew, also, still, only⟩
  refine ⟨segment ++ rest, ?_, ?_, ?_, ?_⟩
  · rw [grew, grown, List.append_assoc]
  · rw [calls_append]
    exact Nat.add_le_add few also
  · refine List.pairwise_append.mpr ⟨orderly, still, ?_⟩
    exact fun earlier member _ _ stopped => (none_ earlier member stopped).elim
  · intro occurrence member stopped
    rcases List.mem_append.mp member with earlier | last
    · exact (none_ occurrence earlier stopped).elim
    · exact only occurrence last stopped

/-- What follows without a request. -/
theorem Adds.silent (first : Adds limit refused log between) (second : Adds 0 False between later) :
    Adds limit refused log later := by
  rcases first with ⟨segment, grown, few, orderly, only⟩
  rcases second with ⟨rest, grew, none_, still, never⟩
  have quiet := isRequest_of_calls (Nat.le_zero.mp none_)
  refine ⟨segment ++ rest, ?_, ?_, ?_, ?_⟩
  · rw [grew, grown, List.append_assoc]
  · rw [calls_append]
    exact Nat.add_le_add few none_
  · exact List.pairwise_append.mpr ⟨orderly, still, fun _ _ last member _ => quiet last member⟩
  · intro occurrence member stopped
    rcases List.mem_append.mp member with earlier | last
    · exact only occurrence earlier stopped
    · exact (never occurrence last stopped).elim

/-- One thing that is no request. -/
theorem adds_silent {last : Occurrence} (silent : last.isRequest = false) :
    Adds 0 False log (log ++ [last]) := by
  refine ⟨_, rfl, ?_, List.pairwise_singleton _ _, ?_⟩
  · rw [calls, List.countP_singleton, silent]
    exact le_rfl
  · intro occurrence member stopped
    rw [List.mem_singleton.mp member] at stopped
    rw [stopped.isRequest] at silent
    cases silent

theorem adds_request (policy : Policy) (sent : Request) {outcome : GenerateOutcome}
    (only : ∀ message, outcome = .budgetExceeded message → refused) :
    Adds 1 refused log (log ++ [.request policy sent outcome]) := by
  refine ⟨_, rfl, le_rfl, List.pairwise_singleton _ _, ?_⟩
  intro occurrence member stopped
  rw [List.mem_singleton.mp member] at stopped
  cases outcome with
  | budgetExceeded message => exact only message rfl
  | _ => cases stopped

end Logs

/-! ## The methods of an episode -/

namespace Episode

variable (env : Environment) {session : Session}

/-- Evaluations request nothing. -/
theorem evaluate_adds (hidden : Bool) (assign : EvalResult → Episode → Episode) :
    (evaluate env hidden assign session).Ensures
      (fun after => Adds 0 False session.log after.log)
      (fun _ after => Adds 0 False session.log after.log) := by
  unfold evaluate
  dsimp only
  cases env.evaluate session.log (session.episode.evalCall hidden) with
  | result result => exact adds_silent rfl
  | raised failure => exact adds_silent rfl

theorem clone_adds :
    (clone env session).Ensures (fun after => Adds 0 False session.log after.log)
      (fun _ after => Adds 0 False session.log after.log) := by
  unfold clone
  dsimp only
  cases env.deepcopy session.log with
  | none => exact adds_silent rfl
  | some failure => exact adds_silent rfl

theorem start_adds :
    (start env session).Ensures (fun after => Adds 0 False session.log after.log)
      (fun _ after => Adds 0 False session.log after.log) := by
  unfold start
  split_ifs
  · exact Adds.refl _ _
  · exact evaluate_adds env false assignBaseline

theorem finish_adds :
    (finish env session).Ensures (fun after => Adds 0 False session.log after.log)
      (fun _ after => Adds 0 False session.log after.log) := by
  unfold finish
  split_ifs
  · exact Adds.refl _ _
  · apply (start_adds env).andThen
    intro started begun
    apply (evaluate_adds env true assignGrading).mono
    · exact fun after graded => begun.next graded
    · exact fun failure after graded => begun.next graded

/-- The exception of a refused reservation. -/
def IsRefusal (failure : Failure) : Prop := ∃ message, failure = .budgetExceeded message

theorem sendRequest_adds (action : Action) :
    (sendRequest env action session).Ensures (fun after => Adds 1 False session.log after.log)
      (fun failure after => Adds 1 (IsRefusal failure) session.log after.log) := by
  unfold sendRequest
  dsimp only
  cases env.generate session.log (session.episode.request action) with
  | budgetExceeded message => exact adds_request _ _ fun _ _ => ⟨message, rfl⟩
  | cancelled cost_usd prompt_tokens completion_tokens => exact adds_request _ _ (by simp)
  | providerError message cost_usd prompt_tokens completion_tokens =>
      exact adds_request _ _ (by simp)
  | raised kind message => exact adds_request _ _ (by simp)
  | result generated =>
      have sent : Adds 1 False session.log (session.log ++ [.request session.episode.policy_id
          (session.episode.request action) (.result generated)]) := adds_request _ _ (by simp)
      apply (evaluate_adds env false (assignMeasured session.episode.publicResult.passed)).mono
      · exact fun after measured => sent.silent measured
      · exact fun failure after measured => (sent.silent measured).mono le_rfl False.elim

/-- A step sends one request at most, and raises when it is refused. -/
theorem step_adds (action : Action) :
    (step env action session).Ensures (fun after => Adds 1 False session.log after.log)
      (fun failure after => Adds 1 (IsRefusal failure) session.log after.log) := by
  have begun : (start env session).Ensures (fun after => Adds 0 False session.log after.log)
      (fun failure after => Adds 1 (IsRefusal failure) session.log after.log) :=
    (start_adds env).mono (fun _ started => started)
      (fun _ _ started => started.mono (Nat.zero_le 1) False.elim)
  unfold step
  apply begun.andThen
  intro started first
  have idle : Adds 1 False session.log started.log := first.mono (Nat.zero_le 1) id
  split_ifs
  · exact idle
  · unfold act
    dsimp only
    split_ifs
    · exact idle
    · exact idle
    · apply (sendRequest_adds env action).mono
      · exact fun after sent => (first.next sent).mono (by omega) id
      · exact fun failure after sent => (first.next sent).mono (by omega) id

end Episode

/-! ## The tree -/

/-- The shared variables say that the budget is exhausted. -/
def Collection.Exhausted (c : Collection) : Prop :=
  c.isPartial = true ∧ c.reason = some "budget_exhausted"

/-- An attempt of a tree adds a number of requests at most, and notes a refusal. -/
def Bounded (limit : ℕ) (log : List Occurrence) (attempt : Attempt Failure Collection) : Prop :=
  attempt.Ensures (fun after => Adds limit after.Exhausted log after.log)
    (fun _ after => Adds limit True log after.log)

section Attempts

variable {limit more : ℕ} {log later : List Occurrence} {attempt : Attempt Failure Collection}

theorem Bounded.after (first : Adds limit False log later) (rest : Bounded more later attempt) :
    Bounded (limit + more) log attempt := by
  apply rest.mono
  · exact fun after second => first.next second
  · exact fun failure after second => first.next second

theorem Bounded.mono {wider : ℕ} (bounded : Bounded limit log attempt) (within : limit ≤ wider) :
    Bounded wider log attempt := by
  apply Attempt.Ensures.mono bounded
  · exact fun after adds => adds.mono within id
  · exact fun failure after adds => adds.mono within id

end Attempts

namespace Tree

variable {tree : Tree} {ep : Episode} {route : List Action} {c : Collection}

/-- What requests nothing is followed by what is bounded as before. -/
theorem silent_bounded {limit : ℕ} {log : List Occurrence} {attempt : Attempt Failure Session}
    {next : Session → Attempt Failure Collection}
    (continues : ∀ after : Session, Bounded limit after.log (next after)) :
    attempt.Ensures (fun after => Adds 0 False log after.log)
      (fun _ after => Adds 0 False log after.log) →
    Bounded limit log
      (match attempt with
      | .thrown failure left => .thrown failure (c.leave left.log)
      | .done after => next after) := by
  intro silent
  cases attempt with
  | thrown failure left => exact Adds.mono silent (Nat.zero_le _) False.elim
  | done after =>
      have first : Adds 0 False log after.log := silent
      exact ((continues after).after first).mono (by omega)

/-- Nothing has been requested, and a noted refusal is still noted. -/
def Kept (c after : Collection) : Prop :=
  Adds 0 False c.log after.log ∧ (c.Exhausted → after.Exhausted)

/-- An attempt that only writes. -/
def Writes (c : Collection) (attempt : Attempt Failure Collection) : Prop :=
  attempt.Ensures (Kept c) (fun _ after => Adds 0 False c.log after.log)

theorem record_writes (record : Record) :
    Writes c ((tree.env.record record c.log).within c.leave) := by
  unfold Environment.record
  dsimp only
  cases tree.env.write c.log record with
  | none => exact ⟨adds_silent rfl, id⟩
  | some failure => exact adds_silent rfl

theorem save_trace_writes (kind : String) (route : List Action) (run : EpisodeResult) :
    Writes c (tree.save_trace kind route run c) := by
  let saved (trace : Trace) : Collection := { c with traces := c.traces ++ [trace] }
  have recorded (trace : Trace) :
      Writes (saved trace) ((tree.env.record (.trace trace) c.log).within (saved trace).leave) :=
    record_writes _
  exact recorded _

theorem save_transition_writes (transition : Transition) :
    Writes c (tree.save_transition transition c) := by
  let saved : Collection := { c with transitions := c.transitions ++ [transition] }
  have recorded :
      Writes saved ((tree.env.record (.transition transition) c.log).within saved.leave) :=
    record_writes _
  exact recorded

/-- A record ends what is bounded. -/
theorem Writes.bounded {limit : ℕ} {log : List Occurrence} {attempt : Attempt Failure Collection}
    (writes : Writes c attempt) (adds : Adds limit c.Exhausted log c.log) :
    Bounded limit log attempt := by
  apply Attempt.Ensures.mono writes
  · exact fun after kept => (adds.silent kept.1).mono le_rfl kept.2
  · exact fun failure after silent => (adds.silent silent).mono le_rfl fun _ => trivial

/-- A record is followed by what is bounded as before. -/
theorem Writes.andThen {limit : ℕ} {attempt : Attempt Failure Collection}
    {next : Collection → Attempt Failure Collection} (writes : Writes c attempt)
    (continues : ∀ after, Bounded limit after.log (next after)) :
    Bounded limit c.log (attempt.andThen next) := by
  cases attempt with
  | thrown failure left => exact Adds.mono writes (Nat.zero_le _) False.elim
  | done after =>
      have kept : Kept c after := writes
      exact ((continues after).after kept.1).mono (by omega)

theorem closeBranch_bounded (branch : Branch) (reward : ℚ) (stepped : Session) :
    Bounded 0 stepped.log (tree.closeBranch branch reward stepped c) := by
  refine silent_bounded (fun graded => ?_) (Episode.finish_adds tree.env)
  apply (save_trace_writes _ _ _).andThen
  intro traced
  split
  · exact Adds.refl _ _
  · exact (save_transition_writes _).bounded (Adds.refl _ _)

/-- A step that raises is recorded, and its refusal is noted before. -/
theorem failBranch_bounded (route : List Action) (before : ℕ) (failure : Failure) {left : Session}
    {log : List Occurrence} (adds : Adds 1 (Episode.IsRefusal failure) log left.log) :
    Bounded 1 log (tree.failBranch route before failure left c) := by
  apply (save_trace_writes _ _ _).bounded
  apply adds.mono le_rfl
  rintro ⟨message, rfl⟩
  exact ⟨rfl, rfl⟩

section Loop

variable {limit : ℕ} {last : Prop} [Decidable last]
  {descend : Episode → List Action → Collection → Attempt Failure Collection}
  (descends : ∀ ep route c, Bounded limit c.log (descend ep route c))

include descends

theorem followBranch_bounded (branch : Branch) (before : ℕ) (stepped : Session) :
    Bounded limit stepped.log (tree.followBranch last descend branch before stepped c) := by
  unfold followBranch
  dsimp only
  split
  · exact (save_trace_writes _ _ _).bounded ((Adds.refl _ _).mono (Nat.zero_le _) id)
  · split
    · exact (closeBranch_bounded _ _ _).mono (Nat.zero_le _)
    · rw [Attempt.andThen_assoc]
      apply (save_trace_writes _ _ _).andThen
      intro traced
      apply (save_transition_writes _).andThen
      exact fun stored => descends _ _ _

theorem explore_bounded (branch : Branch) :
    Bounded (1 + limit) c.log (tree.explore last descend ep branch c) := by
  refine silent_bounded (fun cloned => ?_) (Episode.clone_adds tree.env)
  have stepped : (Episode.step tree.env branch.action cloned).Ensures
      (fun after => Adds 1 False cloned.log after.log)
      (fun failure after => Adds 1 (Episode.IsRefusal failure) cloned.log after.log) :=
    Episode.step_adds tree.env branch.action
  dsimp only
  generalize Episode.step tree.env branch.action cloned = outcome at stepped ⊢
  cases outcome with
  | done after =>
      have first : Adds 1 False cloned.log after.log := stepped
      exact (followBranch_bounded descends branch _ after).after first
  | thrown failure left =>
      have thrown : Adds 1 (Episode.IsRefusal failure) cloned.log left.log := stepped
      cases failure with
      | cancelled => exact thrown.mono (by omega) fun _ => trivial
      | _ => exact (failBranch_bounded _ _ _ thrown).mono (by omega)

/-- The loop stops where a refusal has been noted. -/
theorem branches_bounded (actions : List Action) :
    Bounded (actions.length * (1 + limit)) c.log
      (tree.branches last descend ep route actions c) := by
  induction actions generalizing c with
  | nil => exact (Adds.refl _ _).mono (Nat.zero_le _) id
  | cons action actions ih =>
      have more : (action :: actions).length * (1 + limit) =
          (1 + limit) + actions.length * (1 + limit) := by
        rw [List.length_cons, Nat.succ_mul, Nat.add_comm]
      unfold branches
      split_ifs with stopped
      · exact (Adds.refl _ _).mono (Nat.zero_le _) id
      · have explored : Bounded (1 + limit) c.log
            (tree.explore last descend ep ⟨ep.observation, route, action⟩ c) :=
          explore_bounded descends _
        rw [more]
        generalize tree.explore last descend ep ⟨ep.observation, route, action⟩ c = outcome
          at explored ⊢
        cases outcome with
        | thrown failure left => exact Adds.mono explored (by omega) id
        | done after =>
            have first : Adds (1 + limit) after.Exhausted c.log after.log := explored
            by_cases exhausted : after.Exhausted
            · -- a refusal is noted, so the rest of the loop does nothing
              have rest : tree.branches last descend ep route actions after = .done after := by
                cases actions with
                | nil => rfl
                | cons next actions =>
                    unfold branches
                    exact if_pos exhausted
              rw [Attempt.andThen, rest]
              exact first.mono (by omega) id
            · exact ih.after (first.mono le_rfl exhausted)

end Loop

theorem audit_bounded {limit : ℕ} {deeper : Collection → Attempt Failure Collection}
    (continues : ∀ c, Bounded limit c.log (deeper c)) :
    Bounded limit c.log (tree.audit ep route deeper c) := by
  have silent : ((Episode.clone tree.env ⟨ep, c.log⟩).andThen (Episode.finish tree.env)).Ensures
      (fun after => Adds 0 False c.log after.log) (fun _ after => Adds 0 False c.log after.log) := by
    have copied : (Episode.clone tree.env ⟨ep, c.log⟩).Ensures
        (fun after => Adds 0 False c.log after.log)
        (fun _ after => Adds 0 False c.log after.log) := Episode.clone_adds tree.env
    apply copied.andThen
    intro cloned first
    apply (Episode.finish_adds tree.env).mono
    · exact fun after graded => first.next graded
    · exact fun failure after graded => first.next graded
  refine silent_bounded (fun stopped => ?_) silent
  apply (save_trace_writes _ _ _).andThen
  intro traced
  split
  · exact (Adds.refl _ _).mono (Nat.zero_le _) id
  · apply (save_transition_writes _).andThen
    intro stored
    split
    · exact (Adds.refl _ _).mono (Nat.zero_le _) id
    · exact continues _

/-- A tree of some depth has at most the requests of a binary tree. -/
theorem visit_bounded (remaining : ℕ) (ep : Episode) (route : List Action) (c : Collection) :
    Bounded (2 ^ (remaining + 1) - 2) c.log (tree.visit remaining ep route c) := by
  induction remaining generalizing ep route c with
  | zero =>
      apply audit_bounded
      exact fun c => Adds.refl _ _
  | succ remaining ih =>
      have doubled : PATCH_ACTIONS.length * (1 + (2 ^ (remaining + 1) - 2)) =
          2 ^ (remaining + 1 + 1) - 2 := by
        have two : PATCH_ACTIONS.length = 2 := rfl
        have grows := Nat.pow_succ 2 (remaining + 1)
        have least : 2 ≤ 2 ^ (remaining + 1) := Nat.le_self_pow (Nat.succ_ne_zero _) 2
        rw [two]
        omega
      apply audit_bounded
      intro c
      rw [← doubled]
      exact branches_bounded ih PATCH_ACTIONS

end Tree

/-- The collection of a task. -/
theorem Study.collect_task_tree_bounded (study : Study) (task : Task) (log : List Occurrence) :
    Bounded (2 ^ (study.max_steps.toNat + 1) - 2) log (study.collect_task_tree task log) := by
  unfold Study.collect_task_tree
  split_ifs
  · exact (Adds.refl _ _).mono (Nat.zero_le _) id
  · exact (Adds.refl _ _).mono (Nat.zero_le _) id
  · have started : (Episode.start study.env
        ⟨Episode.new task .research_tree study.max_steps study.seed, log⟩).Ensures
        (fun after => Adds 0 False log after.log) (fun _ after => Adds 0 False log after.log) :=
      Episode.start_adds study.env
    generalize Episode.start study.env
      ⟨Episode.new task .research_tree study.max_steps study.seed, log⟩ = outcome at started ⊢
    cases outcome with
    | thrown failure left => exact Adds.mono started (Nat.zero_le _) False.elim
    | done after =>
        have first : Adds 0 False log after.log := started
        exact ((Tree.visit_bounded _ _ _ _).after first).mono (by omega)

end ForgeRL.Research
