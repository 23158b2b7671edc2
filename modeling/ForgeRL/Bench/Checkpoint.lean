import ForgeRL.Bench.Standing
import Mathlib.Data.List.MinMax

namespace ForgeRL

open Library

/-!
# The checkpoint and the rollback

The checkpoint is compared with each new measurement, and replaced by a
better one only.  Over a whole history that makes it the first of the best:
the maximum of the visible counts, and the earliest files that reached it.
-/

/-- The files that have been checked on the visible cases, with the results:
the baseline, and then every candidate whose check has returned. -/
def measurements (log : List Occurrence) : List (Files × EvalResult) :=
  log.filterMap fun occurrence =>
    match occurrence with
    | .evaluation ⟨.visible, files⟩ (.result result) => some (files, result)
    | _ => none

def passedCount (measurement : Files × EvalResult) : ℕ := measurement.2.passed

def Occurrence.isRollback (occurrence : Occurrence) : Bool :=
  match occurrence with
  | .decision .rollback _ _ => true
  | _ => false

/-- What every state of a run keeps: the checkpoint is the first of the best
measurements, and the rollbacks are those that were decided. -/
structure Ranked (s : Standing) : Prop where
  fresh : s.started = false → measurements s.log = [] ∧ s.files = s.best_files
  best : s.started = true →
    (measurements s.log).argmax passedCount = some (s.best_files, s.bestPublic)
  rollbacks : s.rollbacks = s.log.countP Occurrence.isRollback

namespace Ranked

variable {cfg : Config} {s later : Standing}

theorem measurements_append (log added : List Occurrence) :
    measurements (log ++ added) = measurements log ++ measurements added :=
  List.filterMap_append

/-- A change that measures nothing and rolls nothing back. -/
structure Same (s later : Standing) : Prop where
  started : later.started = s.started
  best_files : later.best_files = s.best_files
  bestPublic : later.bestPublic = s.bestPublic
  rollbacks : later.rollbacks = s.rollbacks
  log : ∃ added, later.log = s.log ++ added ∧ measurements added = [] ∧
    added.countP Occurrence.isRollback = 0

theorem of_same (ranked : Ranked s) (started : s.started = true) (same : Same s later) :
    Ranked later := by
  rcases same.log with ⟨added, log, unmeasured, kept⟩
  refine ⟨fun fresh => ?_, fun _ => ?_, ?_⟩
  · rw [same.started, started] at fresh
    cases fresh
  · rw [log, measurements_append, unmeasured, List.append_nil, same.best_files, same.bestPublic]
    exact ranked.best started
  · rw [log, List.countP_append, kept, same.rollbacks]
    exact ranked.rollbacks

theorem counted_decided (action : Action) (source : String) (state : Observation) :
    (s.decided action source state).log.countP Occurrence.isRollback =
      s.log.countP Occurrence.isRollback + if action = .rollback then 1 else 0 := by
  show (s.log ++ [Occurrence.decision action source state]).countP Occurrence.isRollback = _
  rw [List.countP_append, List.countP_singleton]
  cases action <;> rfl

theorem counted_evaluation (log : List Occurrence) (call : EvalCall) (outcome : EvalOutcome) :
    (log ++ [Occurrence.evaluation call outcome]).countP Occurrence.isRollback =
      log.countP Occurrence.isRollback := by
  rw [List.countP_append, List.countP_singleton]
  rfl

/-- A measurement replaces the checkpoint if it is better. -/
theorem argmax_measured {best_files : Files} {bestPublic result : EvalResult} {files : Files}
    {log : List Occurrence}
    (best : (measurements log).argmax passedCount = some (best_files, bestPublic)) :
    (measurements (log ++ [.evaluation ⟨.visible, files⟩ (.result result)])).argmax passedCount =
      some (if result.passed > bestPublic.passed then files else best_files,
        if result.passed > bestPublic.passed then result else bestPublic) := by
  have added : measurements [Occurrence.evaluation ⟨.visible, files⟩ (.result result)] =
      [(files, result)] := rfl
  rw [measurements_append, added, List.argmax_concat, best]
  show (if bestPublic.passed < result.passed then some (files, result)
    else some (best_files, bestPublic)) = _
  split_ifs <;> rfl

/-- A change of none of the fields that the ranking speaks of. -/
structure Untouched (s later : Standing) : Prop where
  started : later.started = s.started
  best_files : later.best_files = s.best_files
  bestPublic : later.bestPublic = s.bestPublic
  rollbacks : later.rollbacks = s.rollbacks
  log : later.log = s.log

section Untouched

variable (cfg) (s) (role : Role) (escalates : Bool) (bound : ℤ) (failure : ProviderFailure)

theorem untouched_failed : Untouched s (s.failed cfg role escalates bound failure) :=
  ⟨rfl, rfl, rfl, rfl, rfl⟩

theorem untouched_refused (attempts : ℕ) :
    Untouched s { s.failed cfg role escalates bound failure with attempts := attempts } :=
  ⟨rfl, rfl, rfl, rfl, rfl⟩

theorem untouched_armed (pending : Option ℚ) :
    Untouched s { s.failed cfg role escalates bound failure with pending := pending } :=
  ⟨rfl, rfl, rfl, rfl, rfl⟩

theorem untouched_generated (result : RepoResult) :
    Untouched s (s.generated cfg role escalates result) :=
  ⟨rfl, rfl, rfl, rfl, rfl⟩

end Untouched

theorem Untouched.invalid (untouched : Untouched s later) : Untouched s later.invalid :=
  ⟨untouched.started, untouched.best_files, untouched.bestPublic, untouched.rollbacks,
    untouched.log⟩

theorem of_untouched (ranked : Ranked s) (started : s.started = true)
    (untouched : Untouched s later) : Ranked later :=
  ranked.of_same started ⟨untouched.started, untouched.best_files, untouched.bestPublic,
    untouched.rollbacks, [], by rw [untouched.log, List.append_nil], rfl, rfl⟩

theorem sent (ranked : Ranked s) (started : s.started = true) {action : Action} {source : String}
    {state : Observation} {bound : ℤ} {request : Request} {answer : GenerateOutcome}
    {after : Episode} (requests : action.Requests)
    (answered : Answered cfg (s.roleFor action) (decide (s.Escalates action)) bound
      ((s.decided action source state).called action request answer) answer (.ok () after)) :
    Ranked after.standing := by
  have unrolled : Occurrence.isRollback (.decision action source state) = false := by
    rcases requests with ⟨_, other, _⟩
    cases action <;> first | rfl | exact absurd rfl other
  have added : ((s.decided action source state).called action request answer).log =
      s.log ++ [.decision action source state, .request request answer] :=
    List.append_assoc _ _ _
  have quiet : measurements [.decision action source state, .request request answer] = [] ∧
      [Occurrence.decision action source state, .request request answer].countP
        Occurrence.isRollback = 0 := by
    refine ⟨rfl, ?_⟩
    rw [List.countP_eq_zero]
    intro occurrence member
    rcases List.mem_pair.mp member with rfl | rfl
    · exact Bool.eq_false_iff.mp unrolled
    · exact Bool.false_ne_true
  have called : Ranked ((s.decided action source state).called action request answer) :=
    ranked.of_same started ⟨rfl, rfl, rfl, rfl, _, added, quiet⟩
  have kept {later : Standing} (same : after.standing = later)
      (untouched : Untouched ((s.decided action source state).called action request answer)
        later) : Ranked after.standing := by
    rw [same]
    exact called.of_untouched started untouched
  cases answered with
  | refused failure kind _ ended same => exact kept same (untouched_refused _ _ _ _ _ _ _)
  | armed failure limited kind _ delay waits short retries attempts decisions same =>
    exact kept same (untouched_armed _ _ _ _ _ _ _)
  | broken failure kind incurable _ ended same => exact kept same (untouched_failed _ _ _ _ _ _)
  | invalid failure kind unlimited _ same => exact kept same (untouched_failed _ _ _ _ _ _).invalid
  | rejected result error rejects _ same =>
    exact kept same (untouched_generated _ _ _ _ _).invalid
  | measured result candidate merged valid evaluation _ same =>
    rw [same]
    refine ⟨fun fresh => ?_, fun _ => ?_, ?_⟩
    · exact absurd (started.symm.trans fresh) (by decide)
    · exact argmax_measured (called.best started)
    · exact called.rollbacks.trans (counted_evaluation _ _ _).symm

theorem exits (ranked : Ranked s) (started : s.started = true) {action : Action}
    {source : String} {state : Observation} {after : Episode}
    (exits : Exit cfg action source state s (.ok () after)) : Ranked after.standing := by
  have decided (other : action ≠ .rollback) : Ranked (s.decided action source state) := by
    refine ranked.of_same started ⟨rfl, rfl, rfl, rfl, _, rfl, rfl, ?_⟩
    cases action <;> first | rfl | exact absurd rfl other
  cases exits with
  | stopped stops _ ended same =>
    rw [same]
    exact decided (by rw [stops]; decide)
  | restored rolls _ same =>
    rw [same]
    refine ⟨fun fresh => ?_, fun _ => ?_, ?_⟩
    · exact absurd (started.symm.trans fresh) (by decide)
    · refine (congrArg _ ?_).trans (ranked.best started)
      exact (measurements_append _ _).trans (List.append_nil _)
    · show s.rollbacks + 1 = (s.decided action source state).log.countP Occurrence.isRollback
      rw [counted_decided, if_pos rolls, ranked.rollbacks]
  | unsent requests _ ended same =>
    rw [show after.standing = s.decided action source state from same]
    exact decided requests.2.1
  | sent bound request answer issued _ answered =>
    exact ranked.sent started issued.requests answered

theorem acted (ranked : Ranked s) (started : s.started = true) {action : Action}
    {source : String} {after : Episode}
    (acts : Episode.Acted cfg action source s (.ok () after)) : Ranked after.standing := by
  cases acts with
  | kept _ ended same =>
    rw [show after.standing = s from same]
    exact ranked
  | exit state _ exits => exact ranked.exits started exits
  | verified verifies state answer _ same =>
    rw [show after.standing = _ from same]
    exact ranked.of_same started ⟨rfl, rfl, rfl, rfl,
      [.decision .verify source state, .evaluation ⟨.supplemental, s.files⟩ answer],
      List.append_assoc _ _ _, rfl, rfl⟩

theorem moved (ranked : Ranked s) {after : Episode}
    (moved : Episode.Moved cfg s (.ok () after)) : Ranked after.standing := by
  cases moved with
  | start _ opening =>
    cases opening with
    | again _ same =>
      rw [show after.standing = s from same]
      exact ranked
    | opened fresh result _ same =>
      rcases ranked.fresh fresh with ⟨unmeasured, files⟩
      rw [same]
      refine ⟨fun impossible => (by cases impossible), fun _ => ?_, ?_⟩
      · have log : ((s.opened (.result result)).baseline result).log =
            s.log ++ [Occurrence.evaluation ⟨.visible, s.files⟩ (.result result)] := rfl
        have checkpoint : ((s.opened (.result result)).baseline result).best_files = s.files :=
          files.symm
        rw [log, checkpoint, measurements_append, unmeasured]
        rfl
      · exact ranked.rollbacks.trans (counted_evaluation _ _ _).symm
  | waited pending provider_retries _ same =>
    rw [show after.standing = _ from same]
    exact ⟨ranked.fresh, ranked.best, ranked.rollbacks⟩
  | acted begun action source _ acts => exact ranked.acted begun acts

theorem books (cfg : Config) : Episode.Books cfg Ranked fun _ => True where
  initial := ⟨fun _ => ⟨rfl, rfl⟩, fun impossible => (by cases impossible), rfl⟩
  moved {_ outcome} ranked moved_ := by
    cases outcome with
    | ok value after => exact ranked.moved moved_
    | raised escape left => trivial
  weaken _ := trivial
  recounted _ _ := trivial
  graded _ _ := trivial

end Ranked

namespace Episode

/-- A rollback from one state to another: the checkpoint and its measurement
are restored, the visible count increases, and neither the provider nor the
evaluator is called. -/
structure RolledBack (before after : Episode) : Prop where
  files : after.files = before.best_files
  publicResult : after.publicResult = before.bestPublic
  best_files : after.best_files = before.best_files
  bestPublic : after.bestPublic = before.bestPublic
  increases : before.publicResult.passed < after.publicResult.passed
  requests : after.requests = before.requests
  evaluations : after.evaluations = before.evaluations

theorem rollback_exit {cfg : Config} {before : Episode} {source : String} {state : Observation}
    {outcome : Outcome Unit} (behind : before.publicResult.passed < before.bestPublic.passed)
    (exits : Exit cfg .rollback source state before.standing outcome) :
    ∃ after, outcome = .ok () after ∧ RolledBack before after := by
  cases exits with
  | stopped stops => cases stops
  | restored _ after same =>
    have log : after.log = before.log ++ [.decision .rollback source state] :=
      congrArg Standing.log same
    have result : after.publicResult = before.bestPublic := congrArg Standing.publicResult same
    refine ⟨after, rfl, congrArg Standing.files same, result, congrArg Standing.best_files same,
      congrArg Standing.bestPublic same, result ▸ behind, ?_, ?_⟩
    · rw [requests, log, List.filterMap_append]
      exact List.append_nil _
    · rw [evaluations, log, List.filterMap_append]
      exact List.append_nil _
  | unsent requests => exact absurd rfl requests.2.1
  | sent bound request answer issued => exact absurd rfl issued.requests.2.1

/-- Between successful steps the checkpoint of a started episode is the first
of the best measurements.  A legal rollback restores it, and is the only one
of its episode. -/
theorem checkpoint_and_rollback (cfg : Config) (ep : Episode) (running : Running cfg ep) :
    (ep.started_flag = true →
      (measurements ep.log).argmax passedCount = some (ep.best_files, ep.bestPublic) ∧
        ∀ measurement ∈ measurements ep.log, measurement.2.passed ≤ ep.bestPublic.passed) ∧
    (∀ begun source, ep.start cfg = .ok () begun → begun.terminal = false →
      .rollback ∈ begun.legal_actions cfg (begun.observation cfg) →
        begun.log.countP Occurrence.isRollback = 0 ∧
          ∃ after, ep.step cfg .rollback source = .ok () after ∧ RolledBack begun after) ∧
    ep.log.countP Occurrence.isRollback ≤ 1 := by
  have ranked : Ranked ep.standing := running.books (Ranked.books cfg)
  refine ⟨fun started => ?_, fun begun source returned runs legal => ?_, ?_⟩
  · have best := ranked.best started
    have maximal (measurement : Files × EvalResult) (member : measurement ∈ measurements ep.log) :
        passedCount measurement ≤ passedCount (ep.best_files, ep.bestPublic) :=
      List.le_of_mem_argmax member best
    exact ⟨best, maximal⟩
  · have begins : Ranked begun.standing :=
      (Running.next running (returned ▸ .start)).books (Ranked.books cfg)
    rcases room_of_legal legal (by decide) (by decide) with ⟨_, behind, fresh⟩
    have few : begun.rollbacks < 1 := fresh
    refine ⟨begins.rollbacks.symm.trans (Nat.lt_one_iff.mp few), ?_⟩
    exact rollback_exit (of_decide_eq_true behind).1
      (step_exit source returned runs legal (by decide))
  · have free (impossible : False) : cfg.provider.Honest := impossible.elim
    exact ranked.rollbacks.symm.trans_le (running.stays free).1.rollbacks

/-- An episode whose candidate fails the case that passed before. -/
def regressingConfig : Config :=
  smallConfig fun calls _ => .result ⟨if calls.isEmpty then 1 else 0, 2, [], false⟩

theorem checkpoint_and_rollback_regressed : ∃ ep after, Running regressingConfig ep ∧
    ep.step regressingConfig .rollback "static_fallback" = .ok () after ∧ RolledBack ep after := by
  rcases Outcome.returned_of_test (show
      ((initial regressingConfig).step regressingConfig .retry "static_fallback").test
        (fun _ ep => ep.started_flag = true ∧ ep.terminal = false ∧
          .rollback ∈ ep.legal_actions regressingConfig (ep.observation regressingConfig)) = true from
      by decide +kernel) with ⟨value, ep, returned, tested⟩
  rcases of_decide_eq_true tested with ⟨started, runs, legal⟩
  have running : Running regressingConfig ep :=
    .next .initial (returned ▸ .step .retry "static_fallback")
  rcases (checkpoint_and_rollback regressingConfig ep running).2.1 ep "static_fallback"
    (start_of_started _ _ started) runs legal with ⟨_, after, stepped, rolled⟩
  exact ⟨ep, after, running, stepped, rolled⟩

end Episode

end ForgeRL
