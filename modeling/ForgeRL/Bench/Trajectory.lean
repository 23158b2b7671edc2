import ForgeRL.Bench.Advance

namespace ForgeRL

open Library

/-!
# Trajectories

The transitions of a completed run are what the learners are fitted to.  They
form a path from the observation after the first check to the last one, one
transition for every decision, and their costs are the cost of the run.  A way
through a step that decides or pays without a transition leaves the episode
with a status that is never "completed".
-/

/-- Transitions that lead from one observation to another. -/
def Linked (first : Observation) : List Transition → Observation → Prop
  | [], last => last = first
  | transition :: rest, last => transition.state = first ∧ Linked transition.next_state rest last

theorem Linked.concat {first last : Observation} {transitions : List Transition}
    (linked : Linked first transitions last) {transition : Transition}
    (begins : transition.state = last) :
    Linked first (transitions ++ [transition]) transition.next_state := by
  induction transitions generalizing first with
  | nil => exact ⟨begins.trans linked, rfl⟩
  | cons earlier rest ih => exact ⟨linked.1, ih linked.2⟩

namespace Episode

/-- The trajectory of a run that is still to be completed. -/
structure Trail (cfg : Config) (first : Observation) (p : Progress) : Prop where
  runs : p.status = .running
  counted : p.transitions.length = p.decisions
  linked : Linked first p.transitions (p.observation cfg)
  earlier : ∀ transition ∈ p.transitions.dropLast, transition.terminal = false
  unended : p.terminal = false → ∀ transition ∈ p.transitions, transition.terminal = false
  paid : cfg.arithmetic.Exact → (p.transitions.map Transition.cost_usd).sum = p.cost_usd

/-- An episode that has ended and will not be completed. -/
structure Abandoned (p : Progress) : Prop where
  ended : p.terminal = true
  broken : p.status.Broken

section Steps

variable {cfg : Config} {first : Observation} {p effect : Progress} {action : Action}
  {source : String}

theorem Trail.record (trail : Trail cfg first p) (action : Action) (open_ : p.terminal = false)
    (runs : effect.status = .running) (counted : effect.decisions = p.decisions + 1)
    (kept : effect.transitions = p.transitions) :
    Trail cfg first (Progress.recorded cfg action p effect) where
  runs := runs
  counted := by
    show (effect.transitions ++ [Progress.transition cfg action p effect]).length =
      effect.decisions
    rw [List.length_append, kept, counted, trail.counted]
    rfl
  linked := by
    have extended : (Progress.recorded cfg action p effect).transitions =
        p.transitions ++ [Progress.transition cfg action p effect] := by
      rw [← kept]
      rfl
    rw [Progress.observation_recorded, extended]
    exact trail.linked.concat rfl
  earlier := by
    show ∀ transition ∈ (effect.transitions ++
      [Progress.transition cfg action p effect]).dropLast, transition.terminal = false
    rw [List.dropLast_concat, kept]
    exact trail.unended open_
  unended := by
    intro still transition member
    rcases List.mem_append.mp member with before | now
    · exact trail.unended open_ transition (kept ▸ before)
    · rw [List.mem_singleton.mp now]
      exact still
  paid := by
    intro exact_
    show ((effect.transitions ++ [Progress.transition cfg action p effect]).map
      Transition.cost_usd).sum = effect.cost_usd
    have cost : (Progress.transition cfg action p effect).cost_usd =
        effect.cost_usd - p.cost_usd := exact_ _
    rw [List.map_append, List.sum_append, kept, trail.paid exact_, List.map_singleton,
      List.sum_singleton, cost]
    exact add_sub_cancel p.cost_usd effect.cost_usd

/-- A step with a transition continues the trajectory, or it has met the rate
limit for the last time. -/
theorem Trail.step (trail : Trail cfg first p) (open_ : p.terminal = false)
    (effected : Progress.Effect cfg source p action effect) :
    Trail cfg first (Progress.recorded cfg action p effect) ∨
      Abandoned (Progress.recorded cfg action p effect) := by
  have counted : effect.decisions = p.decisions + 1 := by cases effected <;> rfl
  have kept : effect.transitions = p.transitions := by cases effected <;> rfl
  have continues (runs : effect.status = .running) :=
    trail.record action open_ runs counted kept
  cases effected with
  | stopped => exact .inl (continues trail.runs)
  | restored terminal => exact .inl (continues trail.runs)
  | limited requests request failed role status broken => exact .inr ⟨rfl, broken⟩
  | armed requests request failed role delay affords => exact .inl (continues rfl)
  | dismissed requests request outcome cost_usd role status runs terminal =>
    exact .inl (continues (runs.elim (fun same => same.trans trail.runs) id))
  | measured => exact .inl (continues trail.runs)
  | verified result answer terminal => exact .inl (continues trail.runs)

theorem Halted.abandoned {halted : Progress}
    (halts : Progress.Halted cfg source p action halted) : Abandoned halted := by
  cases halts with
  | unsent requests status broken => exact ⟨rfl, broken⟩
  | failed requests request failed role status broken => exact ⟨rfl, broken⟩

end Steps

/-! ## Whole runs -/

section Runs

variable {cfg : Config} {selector : Selector}

/-- The trajectory after the first check has no transition yet. -/
theorem start_trail {started : Episode} (returned : (initial cfg).start cfg = .ok () started) :
    Trail cfg (started.observation cfg) started.progress := by
  have entered := @start_entered cfg (initial cfg)
  rw [returned] at entered
  have begun : Entered cfg (initial cfg).progress started.progress := entered
  rw [← observation_progress]
  generalize started.progress = p at begun ⊢
  cases begun with
  | again impossible => cases impossible
  | baseline fresh result answer terminal ended =>
    exact ⟨rfl, rfl, rfl, fun _ member => absurd member List.not_mem_nil,
      fun _ _ member => absurd member List.not_mem_nil, fun _ => rfl⟩

theorem Rounds.trail {seen : List Observation} {ep : Episode}
    (rounds : Rounds cfg selector seen ep) : ∃ started,
      (initial cfg).start cfg = .ok () started ∧
        (Trail cfg (started.observation cfg) ep.progress ∨ Abandoned ep.progress) := by
  induction rounds with
  | start returned => exact ⟨_, returned, .inl (start_trail returned)⟩
  | @next seen later ep after rounds runs returned ih =>
    rcases ih with ⟨started, begun, either⟩
    refine ⟨started, begun, ?_⟩
    have rounded := round_rounded rounds runs
    rw [returned] at rounded
    have open_ : ep.progress.terminal = false := runs
    have trail : Trail cfg (started.observation cfg) ep.progress := by
      refine either.resolve_right (fun abandoned => ?_)
      rw [abandoned.ended] at open_
      cases open_
    cases rounded with
    | halted turn _ _ halted => exact .inr (Halted.abandoned halted)
    | recorded turn legal effect effected _ _ same =>
      rw [same]
      cases turn with
      | chosen idle selection chosen => exact trail.step open_ effected
      | waited delay pending =>
        have waited : Trail cfg (started.observation cfg) ep.progress.waited :=
          ⟨trail.runs, trail.counted, Progress.observation_waited cfg _ ▸ trail.linked,
            trail.earlier, trail.unended, trail.paid⟩
        exact waited.step open_ effected

/-- Only an episode that is running is graded. -/
theorem finish_broken {ep done : Episode} {result : EpisodeResult} (broken : ep.status.Broken)
    (returned : ep.finish cfg = .ok result done) : result.status ≠ .completed := by
  have described : (conclude cfg (endDecisions ep)).status = ep.status :=
    congrArg Progress.status (@progress_conclude cfg (endDecisions ep))
  have ways := finish_outcome cfg ep
  rw [returned] at ways
  cases ways with
  | again => exact broken.2
  | idle =>
    show (conclude cfg (endDecisions ep)).status ≠ .completed
    rw [described]
    exact broken.2
  | graded graded running => exact absurd running broken.1
  | unavailable message answer =>
    have failed : (conclude cfg (failGrading message (askCheck cfg true (endDecisions ep)))).status =
        .failed :=
      congrArg Progress.status
        (@progress_conclude cfg (failGrading message (askCheck cfg true (endDecisions ep))))
    show (conclude cfg (failGrading message (askCheck cfg true (endDecisions ep)))).status ≠ _
    rw [failed]
    decide

/-- The trajectory of every completed run.  There is one transition for each
decision; the transitions lead from the observation after the first check to
that at the end, each beginning where the one before has ended; only the last
may be terminal; and in exact arithmetic their costs are the cost of the run. -/
theorem completed_trajectory (cfg : Config) (selector : Selector) {result : EpisodeResult}
    {done : Episode} (returned : run_episode cfg selector = .ok result done)
    (completed : result.status = .completed) :
    done.transitions.length = done.decisions ∧
      (∃ started, (initial cfg).start cfg = .ok () started ∧
        Linked (started.observation cfg) done.transitions (done.observation cfg)) ∧
      (∀ transition ∈ done.transitions.dropLast, transition.terminal = false) ∧
      (cfg.arithmetic.Exact →
        (done.transitions.map Transition.cost_usd).sum = done.cost_usd) := by
  have failed (message : String) (left : Episode)
      (returned : (failExecution message left).finish cfg = .ok result done) : False := by
    have broken : (failExecution message left).status.Broken := failedStatus_broken .providerError
    exact finish_broken broken returned completed
  have escaped {escape : Escape} {left : Episode}
      (driven : drive cfg selector (initial cfg) = .raised escape left) : False := by
    rw [run_episode, driven] at returned
    cases escape with
    | sandboxUnavailable message => exact failed message left returned
    | _ => cases returned
  rcases drive_rounds cfg selector with ⟨later, after, driven, rounds, _⟩ | stopped | raised
  · rw [run_episode, driven] at returned
    have finished : after.finish cfg = .ok result done := returned
    rcases rounds.trail with ⟨started, begun, trail | abandoned⟩
    · rcases @progress_finish cfg after with ⟨status, terminal, occurrences, _, same⟩
      rw [finished] at same
      have progress : done.progress = after.progress.closed status terminal occurrences := same
      have transitions : done.transitions = after.transitions :=
        congrArg Progress.transitions progress
      have decisions : done.decisions = after.decisions := congrArg Progress.decisions progress
      have cost_usd : done.cost_usd = after.cost_usd := congrArg Progress.cost_usd progress
      have observed : done.observation cfg = after.progress.observation cfg := by
        rw [← observation_progress, progress, Progress.observation_closed]
      rw [transitions, decisions, cost_usd, observed]
      exact ⟨trail.counted, ⟨started, begun, trail.linked⟩, trail.earlier, trail.paid⟩
    · exact absurd completed (finish_broken abandoned.broken finished)
  · rcases stopped with ⟨escape, left, driven, _⟩
    exact (escaped driven).elim
  · rcases raised with ⟨escape, left, _, _, driven, _⟩
    exact (escaped driven).elim

/-- The candidate of the small episode never passes, and two attempts are made. -/
theorem completed_trajectory_small : ∃ result done,
    run_episode (smallConfig fun _ _ => oneCase false) .policy = .ok result done ∧
      done.transitions.length = done.decisions ∧
      (∃ started, (initial (smallConfig fun _ _ => oneCase false)).start
          (smallConfig fun _ _ => oneCase false) = .ok () started ∧
        Linked (started.observation (smallConfig fun _ _ => oneCase false)) done.transitions
          (done.observation (smallConfig fun _ _ => oneCase false))) ∧
      (∀ transition ∈ done.transitions.dropLast, transition.terminal = false) ∧
      (done.transitions.map Transition.cost_usd).sum = done.cost_usd := by
  have tested : ∃ result done,
      run_episode (smallConfig fun _ _ => oneCase false) .policy = .ok result done ∧
        decide (result.status = .completed ∧ result.attempts = 2) = true :=
    Outcome.returned_of_test (show (run_episode (smallConfig fun _ _ => oneCase false)
      .policy).test (fun result _ => decide (result.status = .completed ∧ result.attempts = 2)) =
        true by decide +kernel)
  rcases tested with ⟨result, done, returned, tested⟩
  have completed : result.status = .completed := (of_decide_eq_true tested).1
  rcases completed_trajectory _ .policy returned completed with ⟨counted, linked, earlier, paid⟩
  exact ⟨result, done, returned, counted, linked, earlier, paid Arithmetic.rational_exact⟩

end Runs

end Episode

end ForgeRL
