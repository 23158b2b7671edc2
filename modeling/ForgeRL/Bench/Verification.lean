import ForgeRL.Bench.Advance
import Mathlib.Logic.Equiv.List

namespace ForgeRL

open Library

/-!
# The discipline of verifications

The results of verifications are kept under the fingerprint of the files, and
files change beneath them: candidates are applied, rejected and rolled back.
A verification counts one call and one fingerprint; everything else that a run
does leaves both, and the results, as they are.  The two choosers of the
harness verify whenever they may, so that no candidate leaves unverified while
there are calls left.
-/

namespace Episode

/-- The fingerprint of the files of a supplemental evaluation. -/
def verifiedFingerprint (cfg : Config) (occurrence : Occurrence) : Option Text :=
  match occurrence with
  | .evaluation call _ =>
    if call.checks = .supplemental then some (cfg.fingerprint call.files) else none
  | _ => none

/-- A change that has nothing to do with verifications. -/
structure Untouched (cfg : Config) (p q : Progress) : Prop where
  calls : q.verification_calls = p.verification_calls
  attempted : q.verification_attempted = p.verification_attempted
  stored : q.verified_candidates = p.verified_candidates
  logged : ∃ more, q.log = p.log ++ more ∧ more.filterMap (verifiedFingerprint cfg) = []

/-- What every reachable state keeps. -/
structure Disciplined (cfg : Config) (p : Progress) : Prop where
  calls : p.verification_calls ≤ VerificationEpisode.max_verifications cfg
  logged : p.log.filterMap (verifiedFingerprint cfg) = p.verification_attempted
  once : p.verification_attempted.Nodup
  answered : ∀ files_sha256 result, Dict.get? p.verified_candidates files_sha256 = some result →
    ∃ files, cfg.fingerprint files = files_sha256 ∧
      .evaluation ⟨.supplemental, files⟩ (.result result) ∈ p.log

section Changes

variable {cfg : Config} {p q : Progress} {action : Action} {source : String}

theorem Disciplined.untouched (disciplined : Disciplined cfg p) (untouched : Untouched cfg p q) :
    Disciplined cfg q := by
  rcases untouched.logged with ⟨more, log, unverified⟩
  refine ⟨untouched.calls ▸ disciplined.calls, ?_, untouched.attempted ▸ disciplined.once, ?_⟩
  · rw [log, List.filterMap_append, unverified, List.append_nil, untouched.attempted]
    exact disciplined.logged
  · intro files_sha256 result stored
    rw [untouched.stored] at stored
    rcases disciplined.answered files_sha256 result stored with ⟨files, same, evaluated⟩
    exact ⟨files, same, log ▸ List.mem_append_left more evaluated⟩

theorem Untouched.of_log {more : List Occurrence}
    (unverified : more.filterMap (verifiedFingerprint cfg) = []) (calls : q.verification_calls =
      p.verification_calls) (attempted : q.verification_attempted = p.verification_attempted)
    (stored : q.verified_candidates = p.verified_candidates) (log : q.log = p.log ++ more) :
    Untouched cfg p q :=
  ⟨calls, attempted, stored, more, log, unverified⟩

theorem Untouched.silent (calls : q.verification_calls = p.verification_calls)
    (attempted : q.verification_attempted = p.verification_attempted)
    (stored : q.verified_candidates = p.verified_candidates) (log : q.log = p.log) :
    Untouched cfg p q :=
  ⟨calls, attempted, stored, [], log.trans (List.append_nil _).symm, rfl⟩

theorem Entered.untouched (entered : Entered cfg p q) : Untouched cfg p q := by
  cases entered with
  | again => exact .silent rfl rfl rfl rfl
  | baseline => exact .of_log rfl rfl rfl rfl rfl

theorem Effect.untouched (repairs : action ≠ .verify)
    (effected : Progress.Effect cfg source p action q) : Untouched cfg p q := by
  cases effected with
  | stopped => exact .of_log rfl rfl rfl rfl rfl
  | restored terminal => exact .of_log rfl rfl rfl rfl rfl
  | limited => exact .of_log rfl rfl rfl rfl (Progress.log_answered ..)
  | armed => exact .of_log rfl rfl rfl rfl (Progress.log_answered ..)
  | dismissed => exact .of_log rfl rfl rfl rfl (Progress.log_answered ..)
  | measured => exact .of_log rfl rfl rfl rfl (Progress.log_applied ..)
  | verified => exact absurd rfl repairs

theorem Halted.untouched (halted : Progress.Halted cfg source p action q) :
    Untouched cfg p q := by
  cases halted with
  | unsent => exact .of_log rfl rfl rfl rfl rfl
  | failed => exact .of_log rfl rfl rfl rfl (Progress.log_answered ..)

theorem Raised.untouched (repairs : action ≠ .verify) {escape : Escape}
    (raised : Progress.Raised cfg source p action escape q) : Untouched cfg p q := by
  cases raised with
  | unsent => exact .of_log rfl rfl rfl rfl rfl
  | escaped => exact .of_log rfl rfl rfl rfl (Progress.log_answered ..)
  | cancelled => exact .of_log rfl rfl rfl rfl (Progress.log_answered ..)
  | unscreened => exact .of_log rfl rfl rfl rfl (Progress.log_answered ..)
  | stranded => exact .of_log rfl rfl rfl rfl (Progress.log_applied ..)
  | unverified => exact absurd rfl repairs

end Changes

/-! ## Verifications -/

/-- The conditions of a verification, besides a decision that is left. -/
structure MayVerify (cfg : Config) (p : Progress) : Prop where
  green : (p.observation cfg).VisibleGreen
  unverified : VerificationEpisode.verified (p.observation cfg) = none
  calls : p.verification_calls < VerificationEpisode.max_verifications cfg
  fresh : cfg.fingerprint p.files ∉ p.verification_attempted

section Verifications

variable {cfg : Config} {p : Progress}

theorem mayVerify_of_mem (member : .verify ∈ VerificationEpisode.legal_actions cfg (p.episode cfg)
    (p.observation cfg)) : MayVerify cfg p := by
  unfold VerificationEpisode.legal_actions at member
  dsimp only at member
  split_ifs at member with full may
  · cases List.mem_singleton.mp member
  · exact ⟨may.1, may.2.1, may.2.2.1, may.2.2.2⟩
  · exact absurd member (Router.verify_not_allowed _)

theorem mayVerify_of_legal (legal : .verify ∈ p.legal_actions cfg) : MayVerify cfg p := by
  unfold Progress.legal_actions legal_actions at legal
  split at legal
  · exact absurd legal (Router.verify_not_allowed _)
  · exact mayVerify_of_mem legal
  · exact mayVerify_of_mem legal
  · unfold AblationEpisode.legal_actions at legal
    dsimp only at legal
    split_ifs at legal
    · exact mayVerify_of_mem legal
    · exact mayVerify_of_mem (List.mem_of_mem_filter legal)

/-- A harness that verifies allows every verification that may be made. -/
theorem legal_of_mayVerify (verifies : cfg.harness.Verifies)
    (room : p.decisions < cfg.bounds.max_decisions) (may : MayVerify cfg p) :
    .verify ∈ p.legal_actions cfg := by
  have member : .verify ∈ VerificationEpisode.legal_actions cfg (p.episode cfg)
      (p.observation cfg) := by
    have left : ¬ (p.observation cfg).decisions ≥ (p.observation cfg).max_decisions := by
      have same : (p.observation cfg).decisions = p.decisions ∧
          (p.observation cfg).max_decisions = cfg.bounds.max_decisions := by
        unfold Progress.observation observation
        cases cfg.harness <;> exact ⟨rfl, rfl⟩
      rw [same.1, same.2]
      exact not_le.mpr room
    unfold VerificationEpisode.legal_actions
    rw [if_neg left]
    dsimp only
    rw [if_pos ⟨may.green, may.unverified, may.calls, may.fresh⟩]
    exact List.mem_cons_self
  unfold Progress.legal_actions legal_actions
  split
  next plain => exact absurd plain verifies.1
  · exact member
  · exact member
  next verify_enabled harness =>
    cases verify_enabled with
    | true => exact member
    | false => exact absurd harness verifies.2

theorem Disciplined.verifying (disciplined : Disciplined cfg p) (may : MayVerify cfg p)
    (source : String) (outcome : EvalOutcome) : Disciplined cfg (p.verifying cfg source outcome) where
  calls := may.calls
  logged := by
    rw [Progress.log_verifying, List.filterMap_append, disciplined.logged]
    rfl
  once := by
    apply List.nodup_append.mpr
    refine ⟨disciplined.once, List.nodup_singleton _, ?_⟩
    rintro earlier member now single rfl
    exact may.fresh (List.mem_singleton.mp single ▸ member)
  answered files_sha256 result stored := by
    rcases disciplined.answered files_sha256 result stored with ⟨files, same, evaluated⟩
    exact ⟨files, same, Progress.log_verifying source outcome ▸ List.mem_append_left _ evaluated⟩

theorem Disciplined.verified (disciplined : Disciplined cfg p) (may : MayVerify cfg p)
    (source : String) (result : EvalResult) :
    Disciplined cfg ((p.verifying cfg source (.result result)).verified cfg result) := by
  have noted := disciplined.verifying may source (.result result)
  refine { noted with answered := ?_ }
  intro files_sha256 other stored
  have assigned : (if files_sha256 = cfg.fingerprint p.files then some result
      else Dict.get? p.verified_candidates files_sha256) = some other := by
    rw [← Dict.get?_set]
    exact stored
  split_ifs at assigned with current
  · cases assigned
    refine ⟨p.files, current.symm, ?_⟩
    show _ ∈ (p.verifying cfg source (.result result)).log
    rw [Progress.log_verifying]
    exact List.mem_append_right _ (List.mem_cons_of_mem _ (List.mem_singleton_self _))
  · exact noted.answered files_sha256 other assigned

theorem disciplined_keeps (cfg : Config) : Keeps cfg (Disciplined cfg) where
  initial := ⟨Nat.zero_le _, rfl, List.nodup_nil, fun _ _ stored => by cases stored⟩
  entered disciplined entered := disciplined.untouched (Entered.untouched entered)
  opened disciplined := disciplined.untouched (.of_log rfl rfl rfl rfl rfl)
  effect {p effect action source} disciplined _ legal effected := by
    have kept : Disciplined cfg effect := by
      by_cases repairs : action = .verify
      · subst repairs
        rcases effected.of_verify with ⟨result, terminal, _, rfl⟩
        have verified := disciplined.verified (mayVerify_of_legal legal) source result
        exact verified.untouched (.silent rfl rfl rfl rfl)
      · exact disciplined.untouched (Effect.untouched repairs effected)
    exact kept.untouched (.silent rfl rfl rfl rfl)
  halted disciplined halted := disciplined.untouched (Halted.untouched halted)
  raised {p left action source escape} disciplined _ legal raised := by
    by_cases repairs : action = .verify
    · subst repairs
      rw [raised.of_verify]
      exact disciplined.verifying (mayVerify_of_legal legal) source _
    · exact disciplined.untouched (Raised.untouched repairs raised)
  waited disciplined := disciplined.untouched (.silent rfl rfl rfl rfl)
  closed status terminal disciplined graded := by
    apply disciplined.untouched
    rcases graded with rfl | ⟨outcome, rfl⟩
    · exact .of_log rfl rfl rfl rfl rfl
    · exact .of_log rfl rfl rfl rfl rfl

end Verifications

/-! ## A verification is free -/

/-- A change that sends no request and costs nothing. -/
structure Free (p q : Progress) : Prop where
  cost_usd : q.cost_usd = p.cost_usd
  logged : ∃ more, q.log = p.log ++ more ∧ ∀ request outcome, .request request outcome ∉ more

section Free

variable {cfg : Config} {p q : Progress} {source : String}

theorem Free.refl (p : Progress) : Free p p :=
  ⟨rfl, [], (List.append_nil _).symm, fun _ _ => List.not_mem_nil⟩

theorem Free.trans {r : Progress} (first : Free p q) (second : Free q r) : Free p r := by
  rcases first.logged with ⟨some_, log, unsent⟩
  rcases second.logged with ⟨more, later, still⟩
  refine ⟨second.cost_usd.trans first.cost_usd, some_ ++ more, ?_, ?_⟩
  · rw [later, log, List.append_assoc]
  · intro request outcome member
    exact (List.mem_append.mp member).elim (unsent request outcome) (still request outcome)

theorem Free.opened (outcome : EvalOutcome) : Free p (p.opened outcome) :=
  ⟨rfl, _, rfl, fun _ _ member => by cases List.mem_singleton.mp member⟩

theorem Free.verifying (outcome : EvalOutcome) : Free p (p.verifying cfg source outcome) := by
  refine ⟨rfl, _, Progress.log_verifying source outcome, ?_⟩
  intro request outcome member
  simp at member

theorem Entered.free (entered : Entered cfg p q) : Free p q := by
  cases entered with
  | again => exact .refl p
  | baseline fresh result =>
    have opened : Free p (p.opened (.result result)) := .opened _
    exact ⟨opened.cost_usd, opened.logged⟩

theorem verify_advances_free {outcome : Outcome Unit}
    (advances : Advances cfg source p .verify outcome) : Free p outcome.episode.progress := by
  cases outcome with
  | ok value after =>
    rcases advances with ⟨effect, effected, same⟩ | halted
    · rcases effected.of_verify with ⟨result, terminal, _, verified⟩
      have asked : Free p (p.verifying cfg source (.result result)) := .verifying _
      rw [Outcome.episode, same, verified]
      exact ⟨asked.cost_usd, asked.logged⟩
    · exact absurd rfl (halted.requests).2.2
  | raised escape left =>
    have raised : Progress.Raised cfg source p .verify escape left.progress := advances
    show Free p left.progress
    rw [raised.of_verify]
    exact .verifying _

/-- A verify step makes no request and adds no cost, however it ends. -/
theorem verify_free (cfg : Config) (source : String) (ep : Episode) :
    Free ep.progress (ep.step cfg .verify source).episode.progress := by
  have taken := @step_taken cfg source ep .verify
  generalize ep.step cfg .verify source = outcome at taken
  cases taken with
  | disabled off verifies escape left same => exact same ▸ .refl _
  | unstarted fresh escape outside left same => exact same ▸ .opened _
  | stepped begun entered _ stepped =>
    apply (Entered.free entered).trans
    cases stepped with
    | idle ended after same => exact same ▸ .refl _
    | illegal refused escape left same => exact same ▸ .refl _
    | advanced runs legal _ advances => exact verify_advances_free advances

theorem Free.requests {before after : Episode} (free : Free before.progress after.progress) :
    after.requests = before.requests := by
  rcases free.logged with ⟨more, log, unsent⟩
  have extended : after.log = before.log ++ more := log
  unfold Episode.requests
  rw [extended, List.filterMap_append]
  refine (congrArg (_ ++ ·) ?_).trans (List.append_nil _)
  rw [List.filterMap_eq_nil_iff]
  intro occurrence member
  cases occurrence with
  | request request outcome => exact absurd member (unsent request outcome)
  | decision => rfl
  | evaluation => rfl

end Free

/-! ## No green candidate stops unverified -/

/-- The choosers of the harness, each on the classes that have its methods. -/
def BuiltIn (cfg : Config) : Selector → Prop
  | .development => cfg.harness ≠ .repo
  | .select => cfg.harness = .pilot ∨ ∃ verify_enabled, cfg.harness = .ablation verify_enabled
  | _ => False

/-- The current files are verified, or no calls are left. -/
def Settled (cfg : Config) (p : Progress) : Prop :=
  (∃ result, Dict.get? p.verified_candidates (cfg.fingerprint p.files) = some result) ∨
    p.verification_calls = VerificationEpisode.max_verifications cfg

/-- Where a run has stopped on files whose visible cases all pass, they are settled. -/
def Attested (cfg : Config) (p : Progress) : Prop :=
  ∀ source state, .decision .stop source state ∈ p.log → p.publicResult.AllPass → Settled cfg p

/-- What holds between the rounds of a run. -/
structure Vigilant (cfg : Config) (p : Progress) : Prop where
  stored : ∀ files_sha256 ∈ p.verification_attempted, ∃ result,
    Dict.get? p.verified_candidates files_sha256 = some result
  unstopped : p.terminal = false → ∀ source state, .decision .stop source state ∉ p.log
  attested : Attested cfg p

section Stops

variable {cfg : Config} {p q : Progress} {action : Action} {source : String}

theorem verified_none (absent : Dict.get? p.verified_candidates (cfg.fingerprint p.files) = none) :
    VerificationEpisode.verified (p.observation cfg) = none := by
  have none_ : (VerificationEpisode.current_verification cfg (p.episode cfg)).map
      (fun result => (result.passed, result.total)) = none :=
    Option.map_eq_none_iff.mpr absent
  unfold Progress.observation observation
  cases cfg.harness with
  | repo => rfl
  | verification => exact none_
  | pilot => exact none_
  | ablation verify_enabled => exact none_

/-- The chooser verifies whenever it may. -/
theorem BuiltIn.verify_refused {selector : Selector} (builtIn : BuiltIn cfg selector)
    {seen : List Observation} {ep : Episode} {selection : Selection}
    (chosen : selector.choose cfg seen ep = .ok selection) (stops : selection.action = .stop) :
    .verify ∉ ep.progress.legal_actions cfg := by
  rw [legal_actions_progress]
  intro legal
  cases selector with
  | policy => exact builtIn
  | custom choose => exact builtIn
  | select =>
    unfold Selector.choose PilotEpisode.select at chosen
    dsimp only at chosen
    rw [if_pos legal] at chosen
    cases chosen
    cases stops
  | development =>
    unfold Selector.choose VerificationEpisode.choose at chosen
    dsimp only at chosen
    rw [if_pos legal] at chosen
    cases chosen
    cases stops

theorem settled_of_refused (refused : .verify ∉ p.legal_actions cfg) (plain : cfg.harness ≠ .repo)
    (disciplined : Disciplined cfg p)
    (stored : ∀ files_sha256 ∈ p.verification_attempted, ∃ result,
      Dict.get? p.verified_candidates files_sha256 = some result)
    (room : p.decisions < cfg.bounds.max_decisions) (green : p.publicResult.AllPass) :
    Settled cfg p := by
  cases present : Dict.get? p.verified_candidates (cfg.fingerprint p.files) with
  | some result => exact .inl ⟨result, present⟩
  | none =>
    right
    by_cases off : cfg.harness = .ablation false
    · have none_ : VerificationEpisode.max_verifications cfg = 0 := if_pos off
      have few := disciplined.calls
      omega
    · by_contra differs
      have observed : (p.observation cfg).VisibleGreen := by
        unfold Progress.observation observation
        cases cfg.harness <;> exact green
      have fresh : cfg.fingerprint p.files ∉ p.verification_attempted := by
        intro attempted
        rcases stored _ attempted with ⟨result, kept⟩
        rw [present] at kept
        cases kept
      exact refused (legal_of_mayVerify ⟨plain, off⟩ room
        ⟨observed, verified_none present, lt_of_le_of_ne disciplined.calls differs, fresh⟩)

/-- Only a decision to stop logs one. -/
theorem stop_of_mem (decides : Progress.Decides cfg action source p q) {other : String}
    {state : Observation} (member : .decision .stop other state ∈ q.log) :
    .decision .stop other state ∈ p.log ∨ action = .stop := by
  rcases decides with ⟨more, log, undecided⟩
  rw [log] at member
  rcases List.mem_append.mp member with earlier | now
  · exact .inl earlier
  · rcases List.mem_cons.mp now with same | later
    · cases same
      exact .inr rfl
    · exact absurd later (undecided _ _ _)

theorem Untouched.stored_keys (untouched : Untouched cfg p q)
    (stored : ∀ files_sha256 ∈ p.verification_attempted, ∃ result,
      Dict.get? p.verified_candidates files_sha256 = some result) :
    ∀ files_sha256 ∈ q.verification_attempted, ∃ result,
      Dict.get? q.verified_candidates files_sha256 = some result := by
  rw [untouched.attempted, untouched.stored]
  exact stored

/-- A verification that has returned stores its result. -/
theorem verified_stored (result : EvalResult)
    (stored : ∀ files_sha256 ∈ p.verification_attempted, ∃ result,
      Dict.get? p.verified_candidates files_sha256 = some result) :
    ∀ files_sha256 ∈ p.verification_attempted ++ [cfg.fingerprint p.files], ∃ other,
      Dict.get? (Dict.set p.verified_candidates (cfg.fingerprint p.files) result) files_sha256 =
        some other := by
  intro files_sha256 member
  rw [Dict.get?_set]
  split_ifs with current
  · exact ⟨result, rfl⟩
  · apply stored
    exact (List.mem_append.mp member).resolve_right fun now =>
      current (List.mem_singleton.mp now)

theorem Effect.stored (effected : Progress.Effect cfg source p action q)
    (stored : ∀ files_sha256 ∈ p.verification_attempted, ∃ result,
      Dict.get? p.verified_candidates files_sha256 = some result) :
    ∀ files_sha256 ∈ q.verification_attempted, ∃ result,
      Dict.get? q.verified_candidates files_sha256 = some result := by
  by_cases repairs : action = .verify
  · subst repairs
    rcases effected.of_verify with ⟨result, terminal, _, rfl⟩
    exact verified_stored result stored
  · exact (Effect.untouched repairs effected).stored_keys stored

theorem BuiltIn.plain {selector : Selector} (builtIn : BuiltIn cfg selector) :
    cfg.harness ≠ .repo := by
  cases selector with
  | policy => exact builtIn.elim
  | custom choose => exact builtIn.elim
  | development => exact builtIn
  | select =>
    rcases builtIn with pilot | ⟨verify_enabled, ablation⟩
    · rw [pilot]
      decide
    · rw [ablation]
      exact fun impossible => by cases impossible

theorem Vigilant.round {selector : Selector} (builtIn : BuiltIn cfg selector)
    {seen later : List Observation} {ep after : Episode} (rounds : Rounds cfg selector seen ep)
    (runs : ep.terminal = false) (vigilant : Vigilant cfg ep.progress)
    (rounded : Rounded cfg selector seen ep (.ok later after)) : Vigilant cfg after.progress := by
  have begins {action : Action} {source : String} {p : Progress}
      (turn : Turn cfg selector seen ep action source p) :
      Vigilant cfg p ∧ p.terminal = false := by
    cases turn <;> exact ⟨⟨vigilant.stored, vigilant.unstopped, vigilant.attested⟩, runs⟩
  cases rounded with
  | halted turn _ _ halted =>
    rcases begins turn with ⟨before, open_⟩
    refine ⟨(Halted.untouched halted).stored_keys before.stored, ?_, ?_⟩
    · intro _ other state member
      exact (stop_of_mem halted.decides member).elim (before.unstopped open_ other state)
        halted.requests.1
    · intro other state member
      exact ((stop_of_mem halted.decides member).elim (before.unstopped open_ other state)
        halted.requests.1).elim
  | recorded turn legal effect effected _ _ same =>
    rw [same]
    rcases begins turn with ⟨before, open_⟩
    have stops {other : String} {state : Observation}
        (member : .decision .stop other state ∈ effect.log) :=
      (stop_of_mem effected.decides member).resolve_left (before.unstopped open_ other state)
    have stored := Effect.stored effected before.stored
    refine ⟨stored, ?_, ?_⟩
    · intro still other state member
      cases stops member
      rw [effected.of_stop] at still
      cases still
    · intro other state member green
      have stopped := stops member
      cases turn with
      | waited delay pending => cases stopped
      | chosen idle selection chosen =>
        have settled (green : ep.progress.publicResult.AllPass) : Settled cfg ep.progress :=
          settled_of_refused (builtIn.verify_refused chosen stopped) builtIn.plain
            ((Reachable.running rounds.running).keeps (disciplined_keeps cfg)) vigilant.stored
            (rounds.room runs).2 green
        rw [stopped] at effected
        rw [effected.of_stop] at green ⊢
        exact settled green

/-- A log without a decision to stop attests to anything. -/
theorem Attested.unstopped (unstopped : ∀ source state, .decision .stop source state ∉ p.log) :
    Attested cfg p :=
  fun source state member => absurd member (unstopped source state)

theorem Attested.closed (attested : Attested cfg p) {occurrences : List Occurrence}
    (graded : Graded p.files occurrences) (status : Status) (terminal : Bool) :
    Attested cfg (p.closed status terminal occurrences) := by
  intro source state member
  apply attested source state
  apply (List.mem_append.mp member).resolve_right
  rcases graded with rfl | ⟨outcome, rfl⟩ <;> simp

/-- The first check decides nothing. -/
theorem opened_unstopped (outcome : EvalOutcome) (source : String) (state : Observation) :
    .decision .stop source state ∉ ((initial cfg).progress.opened outcome).log :=
  fun member => by cases List.mem_singleton.mp member

theorem start_vigilant {started : Episode} (returned : (initial cfg).start cfg = .ok () started) :
    Vigilant cfg started.progress := by
  have entered := @start_entered cfg (initial cfg)
  rw [returned] at entered
  have begun : Entered cfg (initial cfg).progress started.progress := entered
  generalize started.progress = p at begun ⊢
  cases begun with
  | again impossible => cases impossible
  | baseline fresh result answer terminal ended =>
    have unstopped := @opened_unstopped cfg (.result result)
    exact ⟨fun _ member => absurd member List.not_mem_nil, fun _ => unstopped,
      Attested.unstopped unstopped⟩

theorem Rounds.vigilant {selector : Selector} (builtIn : BuiltIn cfg selector)
    {seen : List Observation} {ep : Episode} (rounds : Rounds cfg selector seen ep) :
    Vigilant cfg ep.progress :=
  rounds.keeps (fun _ returned => start_vigilant returned)
    fun _ _ _ _ rounds runs vigilant rounded => vigilant.round builtIn rounds runs rounded

/-- However the body of a run ends, a stop has left settled files. -/
theorem drive_attested {selector : Selector} (builtIn : BuiltIn cfg selector) :
    Attested cfg (drive cfg selector (initial cfg)).episode.progress := by
  rcases drive_rounds cfg selector with ⟨later, after, driven, rounds, _⟩ | stopped | raised
  · rw [driven]
    exact (rounds.vigilant builtIn).attested
  · rcases stopped with ⟨escape, left, driven, begun⟩
    have entered := @start_entered cfg (initial cfg)
    rw [begun] at entered
    rw [driven, Outcome.episode, entered.2.2]
    exact Attested.unstopped (opened_unstopped _)
  · rcases raised with ⟨escape, left, later, last, driven, rounds, runs, outcome⟩
    have vigilant := rounds.vigilant builtIn
    have unstopped := vigilant.unstopped runs
    have rounded := round_rounded rounds runs
    rw [outcome] at rounded
    rw [driven, Outcome.episode]
    apply Attested.unstopped
    cases rounded with
    | unchosen => exact unstopped
    | cancelled _ same =>
      rw [same]
      exact unstopped
    | illegal turn refused _ _ same =>
      rw [same]
      cases turn <;> exact unstopped
    | raised turn legal _ _ raised =>
      intro source state member
      refine raised.not_stop ((stop_of_mem raised.decides member).resolve_left ?_)
      cases turn <;> exact unstopped source state

theorem run_attested {selector : Selector} (builtIn : BuiltIn cfg selector) :
    Attested cfg (run_episode cfg selector).episode.progress := by
  have finished {ep : Episode} (attested : Attested cfg ep.progress) :
      Attested cfg (ep.finish cfg).episode.progress := by
    rcases @progress_finish cfg ep with ⟨status, terminal, occurrences, graded, same⟩
    rw [same]
    exact attested.closed graded status terminal
  have attested := drive_attested builtIn
  unfold run_episode
  generalize drive cfg selector (initial cfg) = outcome at attested
  cases outcome with
  | ok value after => exact finished attested
  | raised escape left =>
    cases escape with
    | sandboxUnavailable message =>
      have failed : Attested cfg (failExecution message left).progress := attested
      exact finished failed
    | _ => exact attested

end Stops

/-! ## The discipline of a run -/

/-- Verification discipline.  With fingerprints that no two different files
share, in every state that any run reaches: there are no more calls than
allowed, no fingerprint is verified twice, and what counts as the result of the
current files is what the verifier has answered for just these files.  A verify
step makes no request and adds no cost.  And where a run under a chooser of the
harness has stopped on files whose visible cases all pass, these files have a
result, or every call is used. -/
theorem verification_discipline (cfg : Config)
    (collisionFree : ∀ first second : Files,
      cfg.fingerprint first = cfg.fingerprint second → Dict.SameItems first second) :
    (∀ ep, Reachable cfg ep →
      ep.verification_calls ≤ VerificationEpisode.max_verifications cfg ∧
      (ep.log.filterMap (verifiedFingerprint cfg)).Nodup ∧
      ∀ result, VerificationEpisode.current_verification cfg ep = some result →
        ∃ files, Dict.SameItems files ep.files ∧
          .evaluation ⟨.supplemental, files⟩ (.result result) ∈ ep.log) ∧
    (∀ (ep : Episode) (source : String),
      (ep.step cfg .verify source).episode.requests = ep.requests ∧
      (ep.step cfg .verify source).episode.cost_usd = ep.cost_usd) ∧
    ∀ selector done, BuiltIn cfg selector → done = (run_episode cfg selector).episode →
      (∃ source state, .decision .stop source state ∈ done.log) → done.publicResult.AllPass →
        (∃ result, VerificationEpisode.current_verification cfg done = some result) ∨
          done.verification_calls = VerificationEpisode.max_verifications cfg := by
  refine ⟨?_, ?_, ?_⟩
  · intro ep reachable
    have disciplined := reachable.keeps (disciplined_keeps cfg)
    have once : ep.progress.log.filterMap (verifiedFingerprint cfg) =
        ep.verification_attempted := disciplined.logged
    refine ⟨disciplined.calls, once ▸ disciplined.once, ?_⟩
    intro result stored
    rcases disciplined.answered _ result stored with ⟨files, same, evaluated⟩
    exact ⟨files, collisionFree files ep.files same, evaluated⟩
  · intro ep source
    have free := verify_free cfg source ep
    exact ⟨free.requests, free.cost_usd⟩
  · rintro selector done builtIn rfl ⟨source, state, stopped⟩ green
    exact run_attested builtIn source state stopped green

/-- A pilot episode with a fingerprint that tells all files apart. -/
def smallPilot (evaluator : Evaluator) : Config :=
  { smallConfig evaluator with
    harness := .pilot
    fingerprint := fun files => List.replicate (Encodable.encode files.rows) ⟨0, by decide⟩ }

theorem smallPilot_collisionFree (evaluator : Evaluator) (first second : Files)
    (same : (smallPilot evaluator).fingerprint first = (smallPilot evaluator).fingerprint second) :
    Dict.SameItems first second := by
  have lengths := congrArg List.length same
  have rows : first.rows = second.rows := by
    apply Encodable.encode_injective
    simpa [smallPilot] using lengths
  have equal : first = second := Table.ext rows
  subst equal
  exact ⟨fun _ _ => rfl, fun _ _ => rfl⟩

theorem verification_discipline_small :
    (run_episode (smallPilot fun _ _ => oneCase true) .select).episode.verification_calls ≤ 2 := by
  have discipline := verification_discipline (smallPilot fun _ _ => oneCase true)
    (smallPilot_collisionFree _)
  exact (discipline.1 _ (run_episode_reachable _ .select)).1

end Episode

end ForgeRL
