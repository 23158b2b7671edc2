import ForgeRL.Ledger.Windows
import ForgeRL.Ledger.Protocol

namespace ForgeRL

open Library

/-!
# What the broker advertises

`BrokerState.available` answers from the stored rows, without a transaction.
`BrokerState.admit` first expires what is overdue and then counts.  Both read
the same limits, so they can only disagree about the queue.

A job that expires at the very instant of the question is counted by the
admission (`expires<now` has not happened yet) and not by the advertisement
(`expires>now` has ended).  This is the only disagreement: with at most one job
at work, the admission's second count, of queued and running jobs together, is
implied by the first.
-/

namespace Broker

/-- The three answers `BrokerState.available` returns. -/
structure Availability where
  isOpen : Bool
  code : Option String
  message : String
deriving DecidableEq, Repr

/-- The budget test of `BrokerState.available`. -/
def allowanceUsed (figures : Limits) (minimum : ℤ) : Prop :=
  figures.dayMicro + minimum > dayMicro ∨ figures.monthMicro + minimum > monthMicro ∨
    figures.publicMicro + minimum > Store.publicCap ∨
    figures.globalMicro + minimum > Store.totalCap

instance (figures : Limits) (minimum : ℤ) : Decidable (allowanceUsed figures minimum) :=
  inferInstanceAs (Decidable (_ ∨ _))

/-- Queued jobs that expire later than an instant. -/
def unexpiredCount (jobs : Table Job Uuid Job.id) (now : ℚ) : ℕ :=
  jobs.rows.countP (fun row => row.status = .queued ∧ row.expires > now)

/-- Queued jobs that expire at exactly an instant. -/
def expiringCount (jobs : Table Job Uuid Job.id) (now : ℚ) : ℕ :=
  jobs.rows.countP (fun row => row.status = .queued ∧ row.expires = now)

/-- `BrokerState.available`.  The clock is read once for the limits and once
more for the count. -/
def available (db : Database) (minimum : ℤ) (now counted : ℚ) : Except StoreError Availability :=
  match limits db.ledger now with
  | .error raised => .error raised
  | .ok figures =>
    if figures.disabled then
      .ok ⟨false, some "provider_paused",
        "The live trial is paused. Recorded replay remains available."⟩
    else if allowanceUsed figures minimum then
      .ok ⟨false, some "budget_limit",
        "The shared live allowance is used up. Recorded replay remains available."⟩
    else if unexpiredCount db.jobs counted ≥ 2 then
      .ok ⟨false, some "queue_full",
        "The live queue is full. Explore a recorded run while it clears."⟩
    else
      .ok ⟨true, none, "One fixed task, one new model request; separate from benchmark results."⟩

/-- The call answers, and it answers that the trial is open. -/
def AnswersAvailable : Except StoreError Availability → Prop
  | .ok answer => answer.isOpen = true
  | .error _ => False

instance : DecidablePred AnswersAvailable
  | .ok answer => inferInstanceAs (Decidable (answer.isOpen = true))
  | .error _ => isFalse id

/-- The admission is refused for the shared allowance or for the queue. -/
def RefusedForLimits : Except StoreError Database → Prop
  | .error (.rejected code _ _) => code = "budget_limit" ∨ code = "queue_full"
  | _ => False

instance : DecidablePred RefusedForLimits
  | .error (.rejected code _ _) =>
    inferInstanceAs (Decidable (code = "budget_limit" ∨ code = "queue_full"))
  | .error (.valueError _) => isFalse id
  | .error (.budgetExceeded _) => isFalse id
  | .error .integrityError => isFalse id
  | .error .overflowError => isFalse id
  | .ok _ => isFalse id

/-- The trial is open apart from jobs that expire at this very instant. -/
def ExpiryTie (db : Database) (now : ℚ) : Prop :=
  (∀ figures, limits db.ledger now = .ok figures → ¬ admissionExhausted figures) ∧
    unexpiredCount db.jobs now < 2 ∧ 2 ≤ unexpiredCount db.jobs now + expiringCount db.jobs now

/-! ## The two counts of the queue -/

/-- After the overdue jobs are expired, the queue holds what expires later
and what expires now. -/
theorem queuedCount_expireQueued (jobs : Table Job Uuid Job.id) (now : ℚ) :
    queuedCount (expireQueued jobs now) = unexpiredCount jobs now + expiringCount jobs now := by
  rw [queuedCount, expireQueued, Table.update_rows, List.countP_map, unexpiredCount, expiringCount]
  induction jobs.rows with
  | nil => rfl
  | cons row rows ih =>
      simp only [List.countP_cons, Function.comp_apply] at ih ⊢
      rw [ih, add_add_add_comm, Nat.add_left_cancel_iff]
      by_cases waiting : row.status = .queued
      · rcases lt_trichotomy row.expires now with overdue | tie | later
        · simp [waiting, overdue, overdue.ne, overdue.le]
        · simp [waiting, tie]
        · simp [waiting, later, later.ne', later.not_gt]
      · simp [waiting]

/-- Queued and running jobs together. -/
theorem activeCount_eq (jobs : Table Job Uuid Job.id) :
    activeCount jobs = queuedCount jobs + runningCount jobs := by
  rw [activeCount, queuedCount, runningCount]
  induction jobs.rows with
  | nil => rfl
  | cons row rows ih =>
      simp only [List.countP_cons, ih]
      cases row.status <;> simp <;> omega

theorem runningCount_expireQueued (jobs : Table Job Uuid Job.id) (now : ℚ) :
    runningCount (expireQueued jobs now) ≤ runningCount jobs := by
  rw [runningCount, runningCount, expireQueued, Table.update_rows, List.countP_map]
  apply List.countP_mono_left
  intro job _ counted
  simp only [Function.comp_apply, decide_eq_true_eq] at counted ⊢
  split at counted
  · cases counted
  · exact counted

/-! ## What each side decides -/

theorem answersAvailable_iff {db : Database} {now : ℚ} {figures : Limits}
    (read : limits db.ledger now = .ok figures) :
    AnswersAvailable (available db requestMicro now now) ↔
      ¬ admissionExhausted figures ∧ unexpiredCount db.jobs now < 2 := by
  have budget : admissionExhausted figures ↔
      figures.disabled = true ∨ allowanceUsed figures requestMicro := Iff.rfl
  rw [budget]
  unfold available
  simp only [read]
  split
  · next paused => simp [AnswersAvailable, paused]
  · next enabled =>
      split
      · next used => simp [AnswersAvailable, used]
      · next room =>
          split
          · next full =>
              simp only [AnswersAvailable, Bool.false_eq_true, false_iff, not_and]
              exact fun _ => not_lt.mpr full
          · next short =>
              simp only [AnswersAvailable, true_iff, not_or]
              exact ⟨⟨enabled, room⟩, not_le.mp short⟩

/-- Past the checks of the session and of the client, the admission is refused
for the limits exactly when the budget test or the queue test fails. -/
theorem refusedForLimits_iff {privateHash : PrivateValue → Digest} {db : Database}
    {token : SessionToken} {client : String} {csrf : Option String} (ident : Uuid) {now : ℚ}
    {row : Session} {day month : ℚ} {figures : Limits}
    (opened : session privateHash db token client csrf now = .ok row) (unused : row.used = false)
    (bounds : boundaries now = .ok (day, month))
    (alone : ∀ job ∈ db.jobs.rows, job.clientHash = row.clientHash → job.created < day)
    (read : limits db.ledger now = .ok figures) :
    RefusedForLimits (admitJob privateHash db token client csrf taskId policy ident now now) ↔
      admissionExhausted figures ∨ activeCount (expireQueued db.jobs now) ≥ 3 ∨
        queuedCount (expireQueued db.jobs now) ≥ 2 := by
  have fresh : ¬ ∃ job ∈ db.jobs.rows, job.clientHash = row.clientHash ∧ job.created ≥ day := by
    rintro ⟨job, member, own, late⟩
    exact absurd (alone job member own) (not_lt.mpr late)
  unfold admitJob
  simp only [ne_eq, not_true_eq_false, or_self, if_false, opened, unused, Bool.false_eq_true,
    bounds, fresh, read]
  split
  · next exhausted => simp [RefusedForLimits, exhausted]
  · next afford =>
      split
      · next full => simp [RefusedForLimits, full]
      · next room =>
          simp only [afford, room, or_self, iff_false]
          split
          · exact id
          · exact id

theorem boundaries_error {now : ℚ} {raised : StoreError}
    (failed : boundaries now = .error raised) : raised = .valueError "year is out of range" := by
  unfold boundaries at failed
  simp only at failed
  split at failed
  · cases failed
  · cases failed
    rfl

/-- Where the clock cannot be read, the advertisement raises, and the admission
raises something other than a rejection. -/
theorem unreadable_clock {privateHash : PrivateValue → Digest} {db : Database}
    {token : SessionToken} {client : String} {csrf : Option String} (ident : Uuid) {now : ℚ}
    {row : Session} {raised : StoreError}
    (opened : session privateHash db token client csrf now = .ok row) (unused : row.used = false)
    (failed : boundaries now = .error raised) :
    ¬ AnswersAvailable (available db requestMicro now now) ∧
      ¬ RefusedForLimits
        (admitJob privateHash db token client csrf taskId policy ident now now) := by
  have broken := boundaries_error failed
  subst broken
  constructor
  · unfold available limits
    simp only [failed]
    exact id
  · unfold admitJob
    simp only [ne_eq, not_true_eq_false, or_self, if_false, opened, unused, Bool.false_eq_true,
      failed]
    exact id

end Broker

section Reachable

variable (privateHash : PrivateValue → Digest)

/-- A job is finished with the status of an episode that has ended. -/
def Operation.EndsJob : Operation → Prop
  | .finish _ status => status.Terminal
  | _ => True

instance : DecidablePred Operation.EndsJob
  | .finish _ status => inferInstanceAs (Decidable status.Terminal)
  | .storeReserve .. => isTrue trivial
  | .brokerReserve .. => isTrue trivial
  | .settle .. => isTrue trivial
  | .recordProviderAccess => isTrue trivial
  | .recover => isTrue trivial
  | .startSession .. => isTrue trivial
  | .prune _ => isTrue trivial
  | .admitJob .. => isTrue trivial
  | .claim _ => isTrue trivial

theorem run_one_running {operations : List Operation}
    (ended : ∀ operation ∈ operations, operation.EndsJob) :
    runningCount (run (exec privateHash) Database.empty operations).jobs ≤ 1 := by
  have idle : runningCount Database.empty.jobs ≤ 1 := Nat.zero_le 1
  refine run_invariant_of_admissible (exec privateHash) (fun db => runningCount db.jobs ≤ 1) ?_ idle
    (Admissible.of_forall (exec privateHash) ended Database.empty)
  intro db operation ends
  refine (exec_jobsStep privateHash db operation ?_).running
  rintro ident status rfl
  exact ends

end Reachable

/-- Two trials wait; the first of them expires at 1180, when a third client
with a session of its own asks. -/
def tiedTrials : List Operation :=
  openTrial 0 1000 ++ openTrial 1 1100 ++ [.startSession (sampleClient 2) 2 "csrf" 1150]

def thirdSession : Session where
  id := 2
  clientHash := sampleHash (.client (sampleClient 2))
  csrfHash := sampleHash (.csrf "csrf")
  created := 1150
  expires := 2050
  used := false

end ForgeRL
