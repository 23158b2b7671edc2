import ForgeRL.Ledger.Windows

namespace ForgeRL

open Library

/-!
# The protocol of the live trial

Sessions, jobs and charges are removed, rewritten and counted at different
points: the queue is bounded at admission, the single worker at the claim, the
single request at the reservation.  What the limits promise is about the whole
past, including rows that `prune` has deleted since.

`World` therefore keeps the past next to the database: the sessions issued,
the job rows ever stored, the jobs that moved from queued to running and the
jobs that were seen in a terminal status.  Its components are read off the
tables before and after each transaction, not off the operation, so they
record what happened to the rows whoever caused it.
-/

/-! ## What one transaction can do to the jobs and the sessions -/

/-- The status of a job moves forward: out of the queue, then to an end. -/
def StatusMove (before after : JobStatus) : Prop :=
  after = before ∨ (before = .queued ∧ (after = .expired ∨ after = .running)) ∨
    (before = .running ∧ after.Terminal)

/-- A job row keeps everything but its status. -/
structure JobMove (before after : Job) : Prop where
  id : after.id = before.id
  sessionId : after.sessionId = before.sessionId
  clientHash : after.clientHash = before.clientHash
  created : after.created = before.created
  status : StatusMove before.status after.status

theorem JobMove.refl (job : Job) : JobMove job job := ⟨rfl, rfl, rfl, rfl, Or.inl rfl⟩

theorem StatusMove.terminal {before after : JobStatus} (move : StatusMove before after)
    (ended : before.Terminal) : after.Terminal := by
  rcases move with rfl | ⟨queued, _⟩ | ⟨running, _⟩
  · exact ended
  · exact absurd queued ended.1
  · exact absurd running ended.2

theorem StatusMove.not_queued {before after : JobStatus} (move : StatusMove before after)
    (left : before ≠ .queued) : after ≠ .queued := by
  rcases move with rfl | ⟨queued, _⟩ | ⟨_, ended⟩
  · exact left
  · exact absurd queued left
  · exact ended.1

/-- What a committed admission of a job row saw. -/
structure Admitted (privateHash : PrivateValue → Digest) (db : Database) (now : ℚ)
    (job : Job) : Prop where
  queued : job.status = .queued
  created : job.created = now
  fresh : ∀ other ∈ db.jobs.rows, other.id ≠ job.id
  session : ∃ row ∈ db.sessions.rows, row.id = job.sessionId ∧ row.used = false ∧
    row.clientHash = job.clientHash
  client : ∀ other ∈ db.jobs.rows, other.clientHash = job.clientHash →
    other.created < (roundedDay now : ℚ) * 86400

def runningCount (jobs : Table Job Uuid Job.id) : ℕ :=
  jobs.rows.countP (fun job => job.status = .running)

/-- Every row comes from an earlier row by a move, or was just admitted;
every earlier row is still there, or was pruned; the two counts respect their
limits. -/
structure JobsStep (privateHash : PrivateValue → Digest) (db : Database)
    (operation : Operation) (after : Database) : Prop where
  origin : ∀ job ∈ after.jobs.rows, (∃ old ∈ db.jobs.rows, JobMove old job) ∨
    ∃ token client csrf task chosenPolicy now checked,
      operation = .admitJob token client csrf task chosenPolicy job.id now checked ∧
        Admitted privateHash db now job ∧
        ∀ row ∈ after.sessions.rows, row.id = job.sessionId → row.used = true
  kept : ∀ old ∈ db.jobs.rows, (∃ job ∈ after.jobs.rows, JobMove old job) ∨
    ∃ now, operation = .prune now ∧ old.created < now - Broker.retentionSeconds
  running : runningCount db.jobs ≤ 1 → runningCount after.jobs ≤ 1
  queued : Broker.queuedCount db.jobs ≤ 2 → Broker.queuedCount after.jobs ≤ 2

/-- A session row is either opened by this transaction or was there before;
a used session stays used. -/
def SessionsStep (db : Database) (operation : Operation) (after : Database) : Prop :=
  ∀ row ∈ after.sessions.rows,
    (∃ old ∈ db.sessions.rows, old.id = row.id ∧ (old.used = true → row.used = true)) ∨
      ∃ client csrf now, operation = .startSession client row.id csrf now

/-- Rewriting statuses row by row, with moves only, and without a new queued
or running row. -/
theorem JobsStep.of_moves {privateHash : PrivateValue → Digest} {db after : Database}
    {operation : Operation} (condition : Job → Prop) [DecidablePred condition]
    (change : Job → Job)
    (rows : after.jobs.rows = db.jobs.rows.map (fun job => if condition job then change job else job))
    (moves : ∀ job ∈ db.jobs.rows, condition job → JobMove job (change job))
    (stops : ∀ job ∈ db.jobs.rows, condition job → (change job).status.Terminal) :
    JobsStep privateHash db operation after := by
  have lower : ∀ status : JobStatus, (status = .queued ∨ status = .running) →
      after.jobs.rows.countP (fun job => job.status = status) ≤
        db.jobs.rows.countP (fun job => job.status = status) := by
    intro status active
    rw [rows, List.countP_map]
    apply List.countP_mono_left
    intro job member counted
    simp only [Function.comp_apply, decide_eq_true_eq] at counted ⊢
    split at counted
    · next selected =>
        have ended := stops job member selected
        rcases active with rfl | rfl
        · exact absurd counted ended.1
        · exact absurd counted ended.2
    · exact counted
  refine ⟨?_, ?_, fun bound => (lower .running (Or.inr rfl)).trans bound,
    fun bound => (lower .queued (Or.inl rfl)).trans bound⟩
  · intro job member
    rw [rows] at member
    rcases List.mem_map.mp member with ⟨old, oldMember, rfl⟩
    refine Or.inl ⟨old, oldMember, ?_⟩
    split
    · next selected => exact moves old oldMember selected
    · exact JobMove.refl old
  · intro old member
    refine Or.inl ⟨_, rows ▸ List.mem_map_of_mem member, ?_⟩
    split
    · next selected => exact moves old member selected
    · exact JobMove.refl old

theorem JobsStep.of_same {privateHash : PrivateValue → Digest} {db after : Database}
    {operation : Operation} (same : after.jobs = db.jobs) :
    JobsStep privateHash db operation after := by
  refine ⟨?_, ?_, fun bound => same ▸ bound, fun bound => same ▸ bound⟩
  · intro job member
    exact Or.inl ⟨job, same ▸ member, JobMove.refl job⟩
  · intro old member
    exact Or.inl ⟨old, same ▸ member, JobMove.refl old⟩

theorem expireQueued_step (privateHash : PrivateValue → Digest) (db : Database)
    (operation : Operation) (now : ℚ) :
    JobsStep privateHash db operation { db with jobs := Broker.expireQueued db.jobs now } := by
  refine JobsStep.of_moves (fun job => job.status = .queued ∧ job.expires < now)
    (fun job => { job with status := .expired }) rfl ?_ ?_
  · rintro job _ ⟨queued, _⟩
    exact ⟨rfl, rfl, rfl, rfl, Or.inr (Or.inl ⟨queued, Or.inl rfl⟩)⟩
  · intro job _ _
    exact JobStatus.terminal_expired

/-- A row of the queue after expiry is the stored row itself. -/
theorem queued_of_expireQueued {jobs : Table Job Uuid Job.id} {now : ℚ} {row : Job}
    (member : row ∈ (Broker.expireQueued jobs now).rows) (queued : row.status = .queued) :
    row ∈ jobs.rows := by
  rcases List.mem_map.mp member with ⟨old, oldMember, same⟩
  split at same
  · subst same
    cases queued
  · exact same ▸ oldMember

/-- A claim starts one queued row while no other row runs. -/
theorem claim_step (privateHash : PrivateValue → Digest) (db : Database) (now : ℚ) :
    JobsStep privateHash db (.claim now) (Broker.claim db now).1 := by
  rcases Broker.claim_spec db now with waiting | ⟨row, member, queued, idle, started⟩
  · rw [waiting]
    exact expireQueued_step privateHash db _ now
  · have expiry := expireQueued_step privateHash db (.claim now) now
    rw [started]
    set jobs := Broker.expireQueued db.jobs now with hJobs
    have own : ∀ job ∈ jobs.rows, job.id = row.id → job = row :=
      fun job stored same => jobs.eq_of_key_eq stored member same
    have stays : row ∈ db.jobs.rows := queued_of_expireQueued member queued
    refine ⟨?_, ?_, ?_, ?_⟩
    · intro job stored
      rcases List.mem_map.mp stored with ⟨old, oldMember, same⟩
      left
      split at same
      · next selected =>
          rcases own old oldMember selected.1 with rfl
          subst same
          exact ⟨old, stays, rfl, rfl, rfl, rfl, Or.inr (Or.inl ⟨queued, Or.inr rfl⟩)⟩
      · subst same
        rcases expiry.origin old oldMember with moved | ⟨_, _, _, _, _, _, _, impossible, _⟩
        · exact moved
        · cases impossible
    · intro old stored
      left
      rcases expiry.kept old stored with ⟨job, jobMember, move⟩ | ⟨_, impossible, _⟩
      · refine ⟨_, List.mem_map_of_mem jobMember, ?_⟩
        split
        · next selected =>
            rcases own job jobMember selected.1 with rfl
            rcases db.jobs.eq_of_key_eq stored stays move.id.symm with rfl
            exact ⟨rfl, rfl, rfl, rfl, Or.inr (Or.inl ⟨queued, Or.inr rfl⟩)⟩
        · exact move
      · cases impossible
    · intro _
      rw [runningCount, Table.update_rows, List.countP_map]
      refine le_trans (List.countP_mono_left ?_) (jobs.countP_key_le_one row.id)
      intro job stored counted
      simp only [Function.comp_apply, decide_eq_true_eq] at counted ⊢
      split at counted
      · next selected => exact selected.1
      · exact absurd counted (idle job stored)
    · intro bound
      refine le_trans ?_ (expiry.queued bound)
      rw [Broker.queuedCount, Table.update_rows, List.countP_map]
      apply List.countP_mono_left
      intro job _ counted
      simp only [Function.comp_apply, decide_eq_true_eq] at counted ⊢
      split at counted
      · cases counted
      · exact counted

theorem prune_step (privateHash : PrivateValue → Digest) (db : Database) (now : ℚ) :
    JobsStep privateHash db (.prune now) (Broker.prune db now) := by
  have subset : (Broker.prune db now).jobs.rows.Sublist db.jobs.rows := List.filter_sublist
  refine ⟨?_, ?_, fun bound => (subset.countP_le).trans bound,
    fun bound => (subset.countP_le).trans bound⟩
  · intro job member
    exact Or.inl ⟨job, subset.subset member, JobMove.refl job⟩
  · intro old member
    by_cases removed : old.created < now - Broker.retentionSeconds ∧ old.status.Terminal
    · exact Or.inr ⟨now, rfl, removed.1⟩
    · exact Or.inl ⟨old, (Table.mem_delete_iff _ _ _).mpr ⟨member, removed⟩, JobMove.refl old⟩

theorem admit_step {privateHash : PrivateValue → Digest} {db after : Database}
    {token : SessionToken} {client : String} {csrf : Option String} {task chosenPolicy : String}
    {ident : Uuid} {now checked : ℚ}
    (committed : Broker.admitJob privateHash db token client csrf task chosenPolicy ident now checked =
      .ok after) :
    JobsStep privateHash db (.admitJob token client csrf task chosenPolicy ident now checked)
      after := by
  rcases Broker.admit_ok committed with
    ⟨row, day, month, figures, opened, unused, bounds, alone, _, _, _, room, _, sessions, rows,
     fresh⟩
  have expiry := expireQueued_step privateHash db
    (.admitJob token client csrf task chosenPolicy ident now checked) now
  rcases Broker.session_ok opened with ⟨stored, _, _, _⟩
  refine ⟨?_, ?_, ?_, ?_⟩
  · intro job member
    rw [rows, List.mem_append, List.mem_singleton] at member
    rcases member with member | rfl
    · rcases expiry.origin job member with moved | ⟨_, _, _, _, _, _, _, same, seen, _⟩
      · exact Or.inl moved
      · cases same
        exact absurd rfl (seen.fresh job (queued_of_expireQueued member seen.queued))
    · refine Or.inr ⟨token, client, csrf, task, chosenPolicy, now, checked, rfl, ?_, ?_⟩
      · refine ⟨rfl, rfl, fresh, ⟨row, stored, rfl, unused, rfl⟩, ?_⟩
        rw [← (Broker.boundaries_ok bounds).1]
        exact alone
      · intro other otherMember same
        rw [sessions] at otherMember
        rcases List.mem_map.mp otherMember with ⟨old, _, changed⟩
        split at changed
        · subst changed
          rfl
        · next different =>
            subst changed
            exact absurd same different
  · intro old member
    rcases expiry.kept old member with ⟨job, jobMember, move⟩ | ⟨_, impossible, _⟩
    · exact Or.inl ⟨job, rows ▸ List.mem_append_left _ jobMember, move⟩
    · cases impossible
  · intro bound
    have before := expiry.running bound
    rw [runningCount] at before ⊢
    rw [rows, List.countP_append]
    simpa [Broker.queuedJob] using before
  · intro _
    rw [Broker.queuedCount, rows, List.countP_append]
    have one : [Broker.queuedJob ident row now].countP (fun job => job.status = .queued) ≤ 1 :=
      List.countP_le_length
    rw [Broker.queuedCount] at room
    omega

/-- The inversion of a transaction at the jobs. -/
theorem exec_jobsStep (privateHash : PrivateValue → Digest) (db : Database)
    (operation : Operation)
    (ends : ∀ ident status, operation = .finish ident status → status.Terminal) :
    JobsStep privateHash db operation (exec privateHash db operation) := by
  unfold exec
  cases outcome : attempt privateHash db operation with
  | error raised => exact .of_same rfl
  | ok after =>
      simp only
      by_cases onLedger : operation.OnLedger = true
      · rw [attempt_onLedger onLedger outcome]
        exact .of_same rfl
      · cases operation with
        | recover =>
            cases outcome
            refine JobsStep.of_moves (fun job => job.id ∈ Broker.runningIds db.jobs)
              (fun job => { job with status := .interrupted }) ?_ ?_ ?_
            · rw [Broker.recover, Broker.recover_jobs]
              exact Table.update_rows _ _ _ _
            · intro job member selected
              rcases List.mem_map.mp selected with ⟨other, otherMember, same⟩
              rcases List.mem_filter.mp otherMember with ⟨otherStored, runs⟩
              rcases db.jobs.eq_of_key_eq otherStored member same with rfl
              exact ⟨rfl, rfl, rfl, rfl,
                Or.inr (Or.inr ⟨of_decide_eq_true runs, JobStatus.terminal_interrupted⟩)⟩
            · intro job _ _
              exact JobStatus.terminal_interrupted
        | startSession client sid csrf now =>
            exact .of_same (Broker.startSession_ok outcome).2.1
        | prune now =>
            cases outcome
            exact prune_step privateHash db now
        | admitJob token client csrf task chosenPolicy ident now checked => exact admit_step outcome
        | claim now =>
            cases outcome
            exact claim_step privateHash db now
        | finish ident status =>
            cases outcome
            have terminal := ends ident status rfl
            refine JobsStep.of_moves (fun job => job.id = ident ∧ job.status = .running)
              (fun job => { job with status := status }) rfl ?_ ?_
            · rintro job _ ⟨_, runs⟩
              exact ⟨rfl, rfl, rfl, rfl, Or.inr (Or.inr ⟨runs, terminal⟩)⟩
            · intro job _ _
              exact terminal
        | _ => exact absurd rfl onLedger

theorem SessionsStep.of_same {db after : Database} {operation : Operation}
    (same : after.sessions = db.sessions) : SessionsStep db operation after := by
  intro row member
  exact Or.inl ⟨row, same ▸ member, rfl, id⟩

/-- The inversion of a transaction at the sessions. -/
theorem exec_sessionsStep (privateHash : PrivateValue → Digest) (db : Database)
    (operation : Operation) : SessionsStep db operation (exec privateHash db operation) := by
  unfold exec
  cases outcome : attempt privateHash db operation with
  | error raised => exact .of_same rfl
  | ok after =>
      simp only
      by_cases onLedger : operation.OnLedger = true
      · rw [attempt_onLedger onLedger outcome]
        exact .of_same rfl
      · cases operation with
        | recover =>
            cases outcome
            exact .of_same (Broker.recover_sessions db _)
        | startSession client sid csrf now =>
            rcases Broker.startSession_ok outcome with ⟨_, _, opened, rfl, _, rows⟩
            intro row member
            rw [rows, List.mem_append, List.mem_singleton] at member
            rcases member with member | rfl
            · exact Or.inl ⟨row, member, rfl, id⟩
            · exact Or.inr ⟨client, csrf, now, rfl⟩
        | prune now =>
            cases outcome
            intro row member
            exact Or.inl ⟨row, ((Table.mem_delete_iff _ _ _).mp member).1, rfl, id⟩
        | admitJob token client csrf task chosenPolicy ident now checked =>
            rcases Broker.admit_ok outcome with
              ⟨opened, _, _, _, _, _, _, _, _, _, _, _, _, sessions, _⟩
            intro row member
            rw [sessions] at member
            rcases List.mem_map.mp member with ⟨old, stored, changed⟩
            split at changed
            · subst changed
              exact Or.inl ⟨old, stored, rfl, fun _ => rfl⟩
            · subst changed
              exact Or.inl ⟨old, stored, rfl, id⟩
        | claim now =>
            cases outcome
            rcases Broker.claim_spec db now with waiting | ⟨_, _, _, _, started⟩
            · rw [waiting]
              exact .of_same rfl
            · rw [started]
              exact .of_same rfl
        | finish ident status =>
            cases outcome
            exact .of_same rfl
        | _ => exact absurd rfl onLedger

end ForgeRL
