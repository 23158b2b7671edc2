import ForgeRL.Ledger.Protocol

namespace ForgeRL

open Library

/-!
# The live trial over whole runs

The limits of the live trial, for every run of the protocol with fresh
identifiers and a clock that does not go back.  The invariant ties each part
of the past to the tables: a job that was ever admitted is either still stored
or older than the retention period, and its session is used or gone.

One limit needs more than a monotone clock.  The admission looks for an
earlier job of the client since the start of the day that
`datetime.fromtimestamp` reads; a reading that is rounded up past midnight
looks at a day that has not begun.
-/

/-- The database together with its past. -/
structure World where
  db : Database
  clock : ℚ
  /-- The sessions ever opened. -/
  issued : List SessionId
  /-- The job rows ever stored, as they were stored first. -/
  admitted : List Job
  /-- The jobs that went from queued to running, once for each time. -/
  started : List Uuid
  /-- The jobs seen in a terminal status. -/
  ended : List Uuid

namespace World

def initial (clock : ℚ) : World := ⟨Database.empty, clock, [], [], [], []⟩

def newSessions (before after : Database) : List SessionId :=
  (after.sessions.rows.filter (fun row => (before.sessions.find? row.id).isNone)).map Session.id

def newJobs (before after : Database) : List Job :=
  after.jobs.rows.filter (fun job => ∀ old ∈ before.jobs.rows, old.id ≠ job.id)

def newlyStarted (before after : Database) : List Uuid :=
  (after.jobs.rows.filter (fun job => job.status = .running ∧
    ∃ old ∈ before.jobs.rows, old.id = job.id ∧ old.status = .queued)).map Job.id

def endedNow (after : Database) : List Uuid :=
  (after.jobs.rows.filter (fun job => job.status.Terminal)).map Job.id

end World

/-- The clock readings of an operation, in order. -/
def Operation.readings : Operation → List ℚ
  | .storeReserve _ _ _ _ _ now => [now]
  | .brokerReserve _ _ _ _ now => [now]
  | .startSession _ _ _ now => [now]
  | .prune now => [now]
  | .admitJob _ _ _ _ _ _ now checked => [now, checked]
  | .claim now => [now]
  | _ => []

def World.step (privateHash : PrivateValue → Digest) (world : World) (operation : Operation) :
    World :=
  let after := exec privateHash world.db operation
  { db := after
    clock := operation.readings.foldl max world.clock
    issued := world.issued ++ World.newSessions world.db after
    admitted := world.admitted ++ World.newJobs world.db after
    started := world.started ++ World.newlyStarted world.db after
    ended := world.ended ++ World.endedNow after }

/-- What the protocol promises of its environment: readings that do not go
back, identifiers that were never drawn before, terminal results, and no
reservation under a live run id that does not go through the broker. -/
structure LiveInput (world : World) (operation : Operation) : Prop where
  monotone : ∀ reading ∈ operation.readings, world.clock ≤ reading
  fresh_session : ∀ client sid csrf now, operation = .startSession client sid csrf now →
    sid ∉ world.issued
  fresh_job : ∀ token client csrf task chosenPolicy ident now checked,
    operation = .admitJob token client csrf task chosenPolicy ident now checked →
      ∀ job ∈ world.admitted, job.id ≠ ident
  terminal : ∀ ident status, operation = .finish ident status → status.Terminal
  broker_only : ∀ bucket model microUsd runId ident now,
    operation = .storeReserve bucket model microUsd runId ident now →
      ∀ job, runId ≠ some (.recruiterLive job)

/-- The part of `LiveInput` that speaks of one kind of operation only. -/
def World.Expects (world : World) : Operation → Prop
  | .startSession _ sid _ _ => sid ∉ world.issued
  | .admitJob _ _ _ _ _ ident _ _ => ∀ job ∈ world.admitted, job.id ≠ ident
  | .finish _ status => status.Terminal
  | .storeReserve _ _ _ (some (.recruiterLive _)) _ _ => False
  | _ => True

instance (world : World) (operation : Operation) : Decidable (world.Expects operation) := by
  unfold World.Expects
  split <;> infer_instance

theorem liveInput_iff (world : World) (operation : Operation) :
    (∀ reading ∈ operation.readings, world.clock ≤ reading) ∧ world.Expects operation ↔
      LiveInput world operation := by
  constructor
  · rintro ⟨monotone, expected⟩
    refine ⟨monotone, ?_, ?_, ?_, ?_⟩
    · rintro client sid csrf now rfl
      exact expected
    · rintro token client csrf task chosenPolicy ident now checked rfl
      exact expected
    · rintro ident status rfl
      exact expected
    · rintro bucket model microUsd _ ident now rfl job rfl
      exact expected
  · intro allowed
    refine ⟨allowed.monotone, ?_⟩
    unfold World.Expects
    split
    · exact allowed.fresh_session _ _ _ _ rfl
    · exact allowed.fresh_job _ _ _ _ _ _ _ _ rfl
    · exact allowed.terminal _ _ rfl
    · exact allowed.broker_only _ _ _ _ _ _ rfl _ rfl
    · trivial

instance (world : World) (operation : Operation) : Decidable (LiveInput world operation) :=
  decidable_of_iff _ (liveInput_iff world operation)

/-- An admission whose clock reading is rounded up into the next UTC day. -/
def Operation.admissionRoundedUp : Operation → Bool
  | .admitJob _ _ _ _ _ _ now _ => decide (roundedDay now ≠ utcDay now)
  | _ => false

/-! ## The charges of a job -/

/-- A charge row was there before, was reserved in the store under the
caller's run id, or is the first charge of a running job. -/
def ChargeOrigin (db : Database) (operation : Operation) (after : Database) (row : Charge) : Prop :=
  (∃ old ∈ db.ledger.charges.rows, old.id = row.id ∧ old.runId = row.runId) ∨
  (∃ bucket model microUsd now, operation = .storeReserve bucket model microUsd row.runId row.id now) ∨
  ∃ job, row.runId = some (.recruiterLive job) ∧
    (∀ old ∈ db.ledger.charges.rows, old.runId ≠ some (.recruiterLive job)) ∧
    (∃ running ∈ db.jobs.rows, running.id = job ∧ running.status = .running) ∧
    after.ledger.charges.rows = db.ledger.charges.rows ++ [row]

theorem chargeOrigin_of_same {db after : Database} {operation : Operation}
    (same : after.ledger = db.ledger) {row : Charge} (stored : row ∈ after.ledger.charges.rows) :
    ChargeOrigin db operation after row :=
  Or.inl ⟨row, same ▸ stored, rfl, rfl⟩

theorem exec_chargeOrigin (privateHash : PrivateValue → Digest) (db : Database)
    (operation : Operation) :
    ∀ row ∈ (exec privateHash db operation).ledger.charges.rows,
      ChargeOrigin db operation (exec privateHash db operation) row := by
  unfold exec
  cases outcome : attempt privateHash db operation with
  | error raised => exact fun row stored => chargeOrigin_of_same rfl stored
  | ok after =>
      simp only
      intro row stored
      by_cases onQueue : operation.OnQueue = true
      · exact chargeOrigin_of_same (attempt_onQueue onQueue outcome) stored
      · cases operation with
        | storeReserve bucket model microUsd runId ident now =>
            rcases attempt_storeReserve_ok outcome with ⟨ledger, committed, rfl⟩
            rcases Store.reserve_ok committed with ⟨_, _, _, _, _, _, _, _, inserted⟩
            rw [(Store.insertCharge_ok inserted).1, List.mem_append, List.mem_singleton] at stored
            rcases stored with stored | rfl
            · exact Or.inl ⟨row, stored, rfl, rfl⟩
            · exact Or.inr (Or.inl ⟨bucket, model, microUsd, now, rfl⟩)
        | brokerReserve model microUsd runId ident now =>
            rcases Broker.reserve_ok outcome with
              ⟨job, _, ledger, _, _, _, _, _, _, first, running, inserted, rfl⟩
            have rows := (Store.insertCharge_ok inserted).1
            rw [rows, List.mem_append, List.mem_singleton] at stored
            rcases stored with stored | rfl
            · exact Or.inl ⟨row, stored, rfl, rfl⟩
            · exact Or.inr (Or.inr ⟨job, rfl, first, running, rows⟩)
        | settle ident microUsd usage =>
            rcases attempt_settle_ok outcome with ⟨ledger, committed, rfl⟩
            rcases Store.settle_ok committed with ⟨held, member, _, _, _, rfl⟩
            rcases settled_rows member stored with ⟨old, _⟩ | rfl
            · exact Or.inl ⟨row, old, rfl, rfl⟩
            · exact Or.inl ⟨held, member, rfl, rfl⟩
        | recordProviderAccess =>
            cases outcome
            exact Or.inl ⟨row, stored, rfl, rfl⟩
        | recover =>
            cases outcome
            rw [Broker.recover, Broker.recover_charges] at stored
            rcases markUncertain_rows _ _ stored with ⟨old, member, rfl | ⟨_, rfl⟩⟩
            · exact Or.inl ⟨row, member, rfl, rfl⟩
            · exact Or.inl ⟨old, member, rfl, rfl⟩
        | _ => exact absurd rfl onQueue

/-! ## The invariant -/

structure ProtocolInvariant (world : World) : Prop where
  one_running : runningCount world.db.jobs ≤ 1
  two_queued : Broker.queuedCount world.db.jobs ≤ 2
  /-- Every stored job is one of the admitted ones. -/
  recorded : ∀ job ∈ world.db.jobs.rows, ∃ first ∈ world.admitted, first.id = job.id ∧
    first.sessionId = job.sessionId ∧ first.clientHash = job.clientHash ∧
    first.created = job.created
  /-- Every admitted job is still stored, or older than the retention period. -/
  retained : ∀ first ∈ world.admitted,
    (∃ job ∈ world.db.jobs.rows, job.id = first.id ∧ job.clientHash = first.clientHash ∧
      job.created = first.created) ∨ first.created < world.clock - Broker.retentionSeconds
  opened : ∀ row ∈ world.db.sessions.rows, row.id ∈ world.issued
  spent : ∀ first ∈ world.admitted, first.sessionId ∈ world.issued ∧
    ∀ row ∈ world.db.sessions.rows, row.id = first.sessionId → row.used = true
  ids_once : (world.admitted.map Job.id).Nodup
  session_once : (world.admitted.map Job.sessionId).Nodup
  started_admitted : ∀ ident ∈ world.started, ident ∈ world.admitted.map Job.id
  started_left : ∀ ident ∈ world.started, ∀ job ∈ world.db.jobs.rows, job.id = ident →
    job.status ≠ .queued
  started_once : world.started.Nodup
  ended_admitted : ∀ ident ∈ world.ended, ident ∈ world.admitted.map Job.id
  ended_stays : ∀ ident ∈ world.ended, ∀ job ∈ world.db.jobs.rows, job.id = ident →
    job.status.Terminal
  charged_once : ∀ first ∈ world.db.ledger.charges.rows, ∀ second ∈ world.db.ledger.charges.rows,
    ∀ job, first.runId = some (.recruiterLive job) → second.runId = some (.recruiterLive job) →
      first = second

theorem protocolInvariant_initial (clock : ℚ) : ProtocolInvariant (World.initial clock) := by
  constructor <;> simp [World.initial, Database.empty, runningCount, Broker.queuedCount]

/-- At most one admitted job of a client on each UTC day. -/
def ClientDayOnce (world : World) : Prop :=
  (world.admitted.map (fun job => (job.clientHash, utcDay job.created))).Nodup

theorem clock_le_step (privateHash : PrivateValue → Digest) (world : World)
    (operation : Operation) : world.clock ≤ (world.step privateHash operation).clock := by
  have grows : ∀ (readings : List ℚ) (clock : ℚ), clock ≤ readings.foldl max clock := by
    intro readings
    induction readings with
    | nil => exact fun clock => le_refl clock
    | cons reading readings ih => exact fun clock => (le_max_left _ _).trans (ih _)
  exact grows operation.readings world.clock

theorem mem_newJobs {before after : Database} {job : Job} :
    job ∈ World.newJobs before after ↔
      job ∈ after.jobs.rows ∧ ∀ old ∈ before.jobs.rows, old.id ≠ job.id := by
  simp [World.newJobs]

theorem mem_newlyStarted {before after : Database} {ident : Uuid} :
    ident ∈ World.newlyStarted before after ↔ ∃ job ∈ after.jobs.rows, job.status = .running ∧
      (∃ old ∈ before.jobs.rows, old.id = job.id ∧ old.status = .queued) ∧ job.id = ident := by
  simp only [World.newlyStarted, List.mem_map, List.mem_filter, decide_eq_true_eq, and_assoc]

section Step

variable {privateHash : PrivateValue → Digest} {world : World} {operation : Operation}

/-- A job that a step stores anew was admitted by that step, with an
identifier and a session that no earlier job had. -/
theorem new_job_admitted (held : ProtocolInvariant world)
    (allowed : LiveInput world operation) {job : Job}
    (stored : job ∈ World.newJobs world.db (exec privateHash world.db operation)) :
    (∃ token client csrf task chosenPolicy now checked,
        operation = .admitJob token client csrf task chosenPolicy job.id now checked ∧
          Admitted privateHash world.db now job) ∧
      (∀ row ∈ (exec privateHash world.db operation).sessions.rows, row.id = job.sessionId →
        row.used = true) ∧
      (∀ first ∈ world.admitted, first.id ≠ job.id ∧ first.sessionId ≠ job.sessionId) := by
  rcases mem_newJobs.mp stored with ⟨member, absent⟩
  have step := exec_jobsStep privateHash world.db operation allowed.terminal
  rcases step.origin job member with ⟨old, oldMember, move⟩ |
    ⟨token, client, csrf, task, chosenPolicy, now, checked, made, seen, used⟩
  · exact absurd move.id.symm (absent old oldMember)
  · refine ⟨⟨token, client, csrf, task, chosenPolicy, now, checked, made, seen⟩, used, ?_⟩
    intro first firstMember
    refine ⟨allowed.fresh_job _ _ _ _ _ _ _ _ made first firstMember, ?_⟩
    intro same
    rcases seen.session with ⟨row, rowMember, own, unused, _⟩
    have consumed := (held.spent first firstMember).2 row rowMember (own.trans same.symm)
    rw [unused] at consumed
    cases consumed

/-- At most one job is stored anew by a step. -/
theorem newJobs_subsingleton (allowed : LiveInput world operation) {first second : Job}
    (one : first ∈ World.newJobs world.db (exec privateHash world.db operation))
    (two : second ∈ World.newJobs world.db (exec privateHash world.db operation)) :
    first = second := by
  have step := exec_jobsStep privateHash world.db operation allowed.terminal
  rcases mem_newJobs.mp one with ⟨firstMember, firstAbsent⟩
  rcases mem_newJobs.mp two with ⟨secondMember, secondAbsent⟩
  rcases step.origin first firstMember with ⟨old, oldMember, move⟩ |
    ⟨_, _, _, _, _, _, _, made, _⟩
  · exact absurd move.id.symm (firstAbsent old oldMember)
  · rcases step.origin second secondMember with ⟨old, oldMember, move⟩ |
      ⟨_, _, _, _, _, _, _, madeAgain, _⟩
    · exact absurd move.id.symm (secondAbsent old oldMember)
    · rw [made, Operation.admitJob.injEq] at madeAgain
      rcases madeAgain with ⟨_, _, _, _, _, same, _, _⟩
      exact Table.eq_of_key_eq _ firstMember secondMember same

theorem newJobs_nodup_map {β : Type} (project : Job → β) (allowed : LiveInput world operation) :
    ((World.newJobs world.db (exec privateHash world.db operation)).map project).Nodup := by
  have rows : (World.newJobs world.db (exec privateHash world.db operation)).Nodup :=
    List.Nodup.filter _ (List.Nodup.of_map _ (exec privateHash world.db operation).jobs.keys_nodup)
  apply (List.nodup_map_iff_inj_on rows).mpr
  intro first one second two _
  exact newJobs_subsingleton allowed one two

/-- An attribute by which a new job differs from all earlier ones stays
without repetition. -/
theorem admitted_nodup_step {β : Type} (project : Job → β) (allowed : LiveInput world operation)
    (before : (world.admitted.map project).Nodup)
    (differs : ∀ job ∈ World.newJobs world.db (exec privateHash world.db operation),
      ∀ first ∈ world.admitted, project first ≠ project job) :
    ((world.step privateHash operation).admitted.map project).Nodup := by
  simp only [World.step, List.map_append]
  rw [List.nodup_append]
  refine ⟨before, newJobs_nodup_map project allowed, ?_⟩
  intro old oldMember new newMember same
  rcases List.mem_map.mp oldMember with ⟨first, firstMember, rfl⟩
  rcases List.mem_map.mp newMember with ⟨job, jobMember, rfl⟩
  exact differs job jobMember first firstMember same

/-- A stored job with a recorded identifier is a moved row, not a new one. -/
theorem moved_of_admitted (allowed : LiveInput world operation) {job : Job}
    (member : job ∈ (exec privateHash world.db operation).jobs.rows)
    (known : job.id ∈ world.admitted.map Job.id) :
    ∃ old ∈ world.db.jobs.rows, JobMove old job := by
  have step := exec_jobsStep privateHash world.db operation allowed.terminal
  rcases step.origin job member with moved | ⟨_, _, _, _, _, _, _, made, _⟩
  · exact moved
  · rcases List.mem_map.mp known with ⟨first, firstMember, same⟩
    exact absurd same (allowed.fresh_job _ _ _ _ _ _ _ _ made first firstMember)

theorem recorded_step (held : ProtocolInvariant world)
    (allowed : LiveInput world operation) :
    ∀ job ∈ (world.step privateHash operation).db.jobs.rows,
      ∃ first ∈ (world.step privateHash operation).admitted, first.id = job.id ∧
        first.sessionId = job.sessionId ∧ first.clientHash = job.clientHash ∧
        first.created = job.created := by
  intro job member
  simp only [World.step] at member ⊢
  have step := exec_jobsStep privateHash world.db operation allowed.terminal
  rcases step.origin job member with ⟨old, oldMember, move⟩ |
    ⟨_, _, _, _, _, _, _, _, seen, _⟩
  · rcases held.recorded old oldMember with ⟨first, firstMember, ident, session, client, created⟩
    exact ⟨first, List.mem_append_left _ firstMember, ident.trans move.id.symm,
      session.trans move.sessionId.symm, client.trans move.clientHash.symm,
      created.trans move.created.symm⟩
  · have new := mem_newJobs.mpr ⟨member, seen.fresh⟩
    exact ⟨job, List.mem_append_right _ new, rfl, rfl, rfl, rfl⟩

theorem retained_step (held : ProtocolInvariant world)
    (allowed : LiveInput world operation) :
    ∀ first ∈ (world.step privateHash operation).admitted,
      (∃ job ∈ (world.step privateHash operation).db.jobs.rows, job.id = first.id ∧
        job.clientHash = first.clientHash ∧ job.created = first.created) ∨
      first.created < (world.step privateHash operation).clock - Broker.retentionSeconds := by
  intro first member
  have later := clock_le_step privateHash world operation
  have step := exec_jobsStep privateHash world.db operation allowed.terminal
  rcases List.mem_append.mp member with member | member
  · rcases held.retained first member with ⟨old, oldMember, ident, client, created⟩ | aged
    · rcases step.kept old oldMember with ⟨job, jobMember, move⟩ | ⟨now, rfl, aged⟩
      · exact Or.inl ⟨job, jobMember, move.id.trans ident, move.clientHash.trans client,
          move.created.trans created⟩
      · right
        rw [← created]
        exact aged.trans_le (sub_le_sub_right (le_max_right _ _) _)
    · exact Or.inr (aged.trans_le (sub_le_sub_right later _))
  · exact Or.inl ⟨first, (mem_newJobs.mp member).1, rfl, rfl, rfl⟩

theorem sessions_step (privateHash : PrivateValue → Digest) (held : ProtocolInvariant world)
    (allowed : LiveInput world operation) :
    (∀ row ∈ (world.step privateHash operation).db.sessions.rows,
      row.id ∈ (world.step privateHash operation).issued) ∧
    ∀ first ∈ (world.step privateHash operation).admitted,
      first.sessionId ∈ (world.step privateHash operation).issued ∧
      ∀ row ∈ (world.step privateHash operation).db.sessions.rows, row.id = first.sessionId →
        row.used = true := by
  have step := exec_sessionsStep privateHash world.db operation
  simp only [World.step]
  constructor
  · intro row member
    by_cases present : ∃ old ∈ world.db.sessions.rows, old.id = row.id
    · rcases present with ⟨old, oldMember, same⟩
      exact List.mem_append_left _ (same ▸ held.opened old oldMember)
    · push Not at present
      apply List.mem_append_right
      have missing : (world.db.sessions.find? row.id).isNone = true := by
        rw [(Table.find?_eq_none_iff _ _).mpr present]
        rfl
      exact List.mem_map.mpr ⟨row, List.mem_filter.mpr ⟨member, missing⟩, rfl⟩
  · intro first firstMember
    rcases List.mem_append.mp firstMember with earlier | new
    · rcases held.spent first earlier with ⟨known, used⟩
      refine ⟨List.mem_append_left _ known, ?_⟩
      intro row member same
      rcases step row member with ⟨old, oldMember, ident, stays⟩ | ⟨client, csrf, now, made⟩
      · exact stays (used old oldMember (ident.trans same))
      · exact absurd (same ▸ known) (allowed.fresh_session client row.id csrf now made)
    · rcases new_job_admitted held allowed new with ⟨⟨_, _, _, _, _, _, _, _, seen⟩, used, _⟩
      rcases seen.session with ⟨row, rowMember, own, _⟩
      exact ⟨List.mem_append_left _ (own ▸ held.opened row rowMember), used⟩

theorem started_step (privateHash : PrivateValue → Digest) (held : ProtocolInvariant world)
    (allowed : LiveInput world operation) :
    (∀ ident ∈ (world.step privateHash operation).started,
      ident ∈ (world.step privateHash operation).admitted.map Job.id) ∧
    (∀ ident ∈ (world.step privateHash operation).started,
      ∀ job ∈ (world.step privateHash operation).db.jobs.rows, job.id = ident →
        job.status ≠ .queued) ∧
    (world.step privateHash operation).started.Nodup := by
  simp only [World.step, List.map_append]
  have left : ∀ ident ∈ world.started ++
      World.newlyStarted world.db (exec privateHash world.db operation),
      ∀ job ∈ (exec privateHash world.db operation).jobs.rows, job.id = ident →
        job.status ≠ .queued := by
    intro ident member job jobMember same
    rcases List.mem_append.mp member with member | member
    · have known := held.started_admitted ident member
      rcases moved_of_admitted allowed jobMember (same ▸ known) with ⟨old, oldMember, move⟩
      exact move.status.not_queued
        (held.started_left ident member old oldMember (move.id.symm.trans same))
    · rcases mem_newlyStarted.mp member with ⟨other, otherMember, running, _, ident_eq⟩
      rcases Table.eq_of_key_eq _ jobMember otherMember (same.trans ident_eq.symm) with rfl
      rw [running]
      decide
  refine ⟨?_, left, ?_⟩
  · intro ident member
    rcases List.mem_append.mp member with member | member
    · exact List.mem_append_left _ (held.started_admitted ident member)
    · rcases mem_newlyStarted.mp member with ⟨_, _, _, ⟨old, oldMember, same, _⟩, rfl⟩
      rcases held.recorded old oldMember with ⟨first, firstMember, ident, _⟩
      exact List.mem_append_left _ (List.mem_map.mpr ⟨first, firstMember, ident.trans same⟩)
  · rw [List.nodup_append]
    refine ⟨held.started_once, ?_, ?_⟩
    · exact (List.filter_sublist.map Job.id).nodup
        (exec privateHash world.db operation).jobs.keys_nodup
    · rintro ident member _ again rfl
      rcases mem_newlyStarted.mp again with ⟨_, _, _, ⟨old, oldMember, same, queued⟩, own⟩
      exact held.started_left ident member old oldMember (same.trans own) queued

theorem ended_step (privateHash : PrivateValue → Digest) (held : ProtocolInvariant world)
    (allowed : LiveInput world operation) :
    (∀ ident ∈ (world.step privateHash operation).ended,
      ident ∈ (world.step privateHash operation).admitted.map Job.id) ∧
    ∀ ident ∈ (world.step privateHash operation).ended,
      ∀ job ∈ (world.step privateHash operation).db.jobs.rows, job.id = ident →
        job.status.Terminal := by
  constructor
  · intro ident member
    rcases List.mem_append.mp member with member | member
    · simp only [World.step, List.map_append]
      exact List.mem_append_left _ (held.ended_admitted ident member)
    · rcases List.mem_map.mp member with ⟨job, jobMember, rfl⟩
      rcases recorded_step held allowed job (List.mem_filter.mp jobMember).1 with
        ⟨first, firstMember, same, _⟩
      exact List.mem_map.mpr ⟨first, firstMember, same⟩
  · intro ident member job jobMember same
    simp only [World.step] at jobMember
    rcases List.mem_append.mp member with member | member
    · have known := held.ended_admitted ident member
      rcases moved_of_admitted allowed jobMember (same ▸ known) with ⟨old, oldMember, move⟩
      exact move.status.terminal
        (held.ended_stays ident member old oldMember (move.id.symm.trans same))
    · rcases List.mem_map.mp member with ⟨other, otherMember, ident_eq⟩
      rcases List.mem_filter.mp otherMember with ⟨otherStored, terminal⟩
      rcases Table.eq_of_key_eq _ jobMember otherStored (same.trans ident_eq.symm) with rfl
      exact of_decide_eq_true terminal

theorem charged_step (held : ProtocolInvariant world)
    (allowed : LiveInput world operation) :
    ∀ first ∈ (world.step privateHash operation).db.ledger.charges.rows,
      ∀ second ∈ (world.step privateHash operation).db.ledger.charges.rows,
      ∀ job, first.runId = some (.recruiterLive job) → second.runId = some (.recruiterLive job) →
        first = second := by
  intro first firstStored second secondStored job one two
  simp only [World.step] at firstStored secondStored
  have origin := exec_chargeOrigin privateHash world.db operation
  -- A first charge of the job excludes every other row of it.
  have alone : ∀ row ∈ (exec privateHash world.db operation).ledger.charges.rows,
      ∀ other ∈ (exec privateHash world.db operation).ledger.charges.rows,
      row.runId = some (.recruiterLive job) → other.runId = some (.recruiterLive job) →
      (∃ own, row.runId = some (.recruiterLive own) ∧
        (∀ old ∈ world.db.ledger.charges.rows, old.runId ≠ some (.recruiterLive own)) ∧
        (exec privateHash world.db operation).ledger.charges.rows =
          world.db.ledger.charges.rows ++ [row]) → other = row := by
    rintro row _ other otherStored rowRun otherRun ⟨own, ownRun, absent, rows⟩
    rw [rowRun] at ownRun
    cases ownRun
    rw [rows, List.mem_append, List.mem_singleton] at otherStored
    rcases otherStored with old | same
    · exact absurd otherRun (absent other old)
    · exact same
  rcases origin first firstStored with ⟨oldFirst, oldFirstStored, firstId, firstRun⟩ |
    ⟨_, _, _, _, made⟩ | ⟨own, ownRun, absent, _, rows⟩
  · rcases origin second secondStored with ⟨oldSecond, oldSecondStored, secondId, secondRun⟩ |
      ⟨_, _, _, _, made⟩ | ⟨own, ownRun, absent, _, rows⟩
    · have same := held.charged_once oldFirst oldFirstStored oldSecond oldSecondStored job
        (firstRun.trans one) (secondRun.trans two)
      subst same
      exact Table.eq_of_key_eq _ firstStored secondStored (firstId.symm.trans secondId)
    · exact absurd two (allowed.broker_only _ _ _ _ _ _ made job)
    · exact alone second secondStored first firstStored two one ⟨own, ownRun, absent, rows⟩
  · exact absurd one (allowed.broker_only _ _ _ _ _ _ made job)
  · exact (alone first firstStored second secondStored one two ⟨own, ownRun, absent, rows⟩).symm

/-- One transaction keeps the invariant. -/
theorem protocolInvariant_step (held : ProtocolInvariant world)
    (allowed : LiveInput world operation) :
    ProtocolInvariant (world.step privateHash operation) := by
  have step := exec_jobsStep privateHash world.db operation allowed.terminal
  have sessions := sessions_step privateHash held allowed
  have started := started_step privateHash held allowed
  have ended := ended_step privateHash held allowed
  have new : ∀ job ∈ World.newJobs world.db (exec privateHash world.db operation),
      ∀ first ∈ world.admitted, first.id ≠ job.id ∧ first.sessionId ≠ job.sessionId :=
    fun job stored => (new_job_admitted held allowed stored).2.2
  exact {
    one_running := step.running held.one_running
    two_queued := step.queued held.two_queued
    recorded := recorded_step held allowed
    retained := retained_step held allowed
    opened := sessions.1
    spent := sessions.2
    ids_once := admitted_nodup_step Job.id allowed held.ids_once
      (fun job stored first member => (new job stored first member).1)
    session_once := admitted_nodup_step Job.sessionId allowed held.session_once
      (fun job stored first member => (new job stored first member).2)
    started_admitted := started.1
    started_left := started.2.1
    started_once := started.2.2
    ended_admitted := ended.1
    ended_stays := ended.2
    charged_once := charged_step held allowed }

/-- An admission on its own rounded day finds an earlier job of that day. -/
theorem clientDayOnce_step (held : ProtocolInvariant world)
    (allowed : LiveInput world operation) (own : operation.admissionRoundedUp = false)
    (before : ClientDayOnce world) : ClientDayOnce (world.step privateHash operation) := by
  apply admitted_nodup_step _ allowed before
  intro job stored first member same
  rcases new_job_admitted held allowed stored with
    ⟨⟨token, client, csrf, task, chosenPolicy, now, checked, made, seen⟩, _, _⟩
  simp only [Prod.mk.injEq] at same
  have day : roundedDay now = utcDay now := by
    subst made
    simpa [Operation.admissionRoundedUp] using own
  have sameDay : utcDay now = utcDay first.created := by rw [same.2, seen.created]
  have start : (utcDay now : ℚ) * 86400 ≤ first.created :=
    (utcDay_le_iff _ _).mp (le_of_eq sameDay)
  rcases held.retained first member with ⟨old, oldMember, _, client, created⟩ | aged
  · have earlier := seen.client old oldMember (client.trans same.1)
    rw [day, created] at earlier
    exact absurd start (not_le.mpr earlier)
  · have reading : world.clock ≤ now := by
      apply allowed.monotone
      rw [made]
      exact List.mem_cons_self
    have next : now < ((utcDay now : ℚ) + 1) * 86400 := by
      have above := Int.lt_floor_add_one (now / 86400)
      rw [div_lt_iff₀ (by norm_num)] at above
      exact above
    rw [Broker.retentionSeconds] at aged
    linarith

end Step

instance (world : World) : Decidable (ClientDayOnce world) :=
  inferInstanceAs (Decidable (List.Nodup _))

/-! ## Runs -/

/-- The laws of the live trial at one state of a run. -/
structure TrialLaws (world : World) : Prop where
  one_running : runningCount world.db.jobs ≤ 1
  two_queued : Broker.queuedCount world.db.jobs ≤ 2
  session_once : (world.admitted.map Job.sessionId).Nodup
  client_day_once : ClientDayOnce world
  started_once : world.started.Nodup
  ended_stays : ∀ ident ∈ world.ended, ∀ job ∈ world.db.jobs.rows, job.id = ident →
    job.status ≠ .queued ∧ job.status ≠ .running
  charged_once : ∀ first ∈ world.db.ledger.charges.rows, ∀ second ∈ world.db.ledger.charges.rows,
    ∀ job, first.runId = some (.recruiterLive job) → second.runId = some (.recruiterLive job) →
      first = second

theorem total_prune (privateHash : PrivateValue → Digest) (db : Database) (now : ℚ) :
    (exec privateHash db (.prune now)).ledger.total = db.ledger.total := rfl

theorem total_recover (privateHash : PrivateValue → Digest) (db : Database) :
    (exec privateHash db .recover).ledger.total = db.ledger.total := by
  have marked : (exec privateHash db .recover).ledger =
      markUncertain db.ledger (Broker.runningIds db.jobs) := by
    simp only [exec, attempt, Broker.recover, Broker.recover_charges]
    rfl
  rw [marked]
  exact markUncertain_sum_eq db.ledger _ static_all

/-- The protocol of the live trial.  In every run with a clock that does not
go back, fresh identifiers and terminal results, in which no admission reads a
clock value that is rounded up into the next UTC day, every state obeys the
limits of the trial; a charge is inserted only for a job that runs at that
moment; pruning and recovery leave the sum of the charges alone. -/
theorem live_trial_protocol (privateHash : PrivateValue → Digest) (clock : ℚ)
    {operations : List Operation}
    (meets : Admissible (World.step privateHash)
      (fun world operation => LiveInput world operation ∧ operation.admissionRoundedUp = false)
      (World.initial clock) operations) :
    let reached := run (World.step privateHash) (World.initial clock) operations
    TrialLaws reached ∧
    (∀ operation, LiveInput reached operation →
      ∀ row ∈ (exec privateHash reached.db operation).ledger.charges.rows,
      (∀ old ∈ reached.db.ledger.charges.rows, old.id ≠ row.id) →
      ∀ job, row.runId = some (.recruiterLive job) →
        ∃ running ∈ reached.db.jobs.rows, running.id = job ∧ running.status = .running) ∧
    (∀ now, (exec privateHash reached.db (.prune now)).ledger.total = reached.db.ledger.total) ∧
    (exec privateHash reached.db .recover).ledger.total = reached.db.ledger.total := by
  intro reached
  have held : ProtocolInvariant reached ∧ ClientDayOnce reached :=
    run_invariant_of_admissible (World.step privateHash)
      (fun world => ProtocolInvariant world ∧ ClientDayOnce world)
      (fun world operation allowed before =>
        ⟨protocolInvariant_step before.1 allowed.1,
          clientDayOnce_step before.1 allowed.1 allowed.2 before.2⟩)
      ⟨protocolInvariant_initial clock, List.nodup_nil⟩ meets
  refine ⟨?_, ?_, fun now => total_prune privateHash reached.db now,
    total_recover privateHash reached.db⟩
  · exact {
      one_running := held.1.one_running
      two_queued := held.1.two_queued
      session_once := held.1.session_once
      client_day_once := held.2
      started_once := held.1.started_once
      ended_stays := held.1.ended_stays
      charged_once := held.1.charged_once }
  · intro operation allowed row stored absent job live
    rcases exec_chargeOrigin privateHash reached.db operation row stored with
      ⟨old, oldStored, same, _⟩ | ⟨_, _, _, _, made⟩ | ⟨own, ownRun, _, running, _⟩
    · exact absurd same (absent old oldStored)
    · exact absurd live (allowed.broker_only _ _ _ _ _ _ made job)
    · rw [live] at ownRun
      cases ownRun
      exact running

/-- A client's trial at noon of 2024-12-31, and its second one at the last
float before midnight. -/
def midnightTrials : List Operation :=
  openTrial 0 1735646400 ++ requestTrial 0 1735646401 1735646402 ++
    [.startSession (sampleClient 0) 1 "csrf" 1735689500,
      .admitJob (Broker.issuedToken sampleHash 1) (sampleClient 0) (some "csrf") Broker.taskId
        Broker.policy 1 (1735689600 - 1 / 4194304) (1735689600 - 1 / 4194304)]

theorem midnightTrials_twice_a_day :
    Admissible (World.step sampleHash) LiveInput (World.initial 1735646400) midnightTrials ∧
      ¬ ClientDayOnce (run (World.step sampleHash) (World.initial 1735646400) midnightTrials) := by
  decide +kernel

/-- Without the second admission the run meets every condition. -/
theorem live_trial_protocol_midnightTrials :
    TrialLaws (run (World.step sampleHash) (World.initial 1735646400) (midnightTrials.take 6)) :=
  have meets : Admissible (World.step sampleHash)
      (fun world operation => LiveInput world operation ∧ operation.admissionRoundedUp = false)
      (World.initial 1735646400) (midnightTrials.take 6) := by decide +kernel
  (live_trial_protocol sampleHash 1735646400 meets).1

end ForgeRL
