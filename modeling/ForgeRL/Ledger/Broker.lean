import ForgeRL.Ledger.Store
import ForgeRL.Library.Calendar

namespace ForgeRL

open Library

/-!
# The private broker of the live trial

`BrokerState` keeps sessions and jobs next to the charges of `Store` in one
database.  A session admits at most one job, a job makes at most one charge,
and the public charges are compared with a day, a month, a lifetime and a
rolling limit.

The secret enters only through `privateHash`, so it is a parameter of the
operations that compute a hash.  A job row carries what the admission and the
reservation read; its event and result payloads are written for the viewer and
read by no operation below.
-/

/-- The number whose 64 hexadecimal digits an HMAC-SHA256 prints. -/
abbrev Digest := ℕ

/-- The number whose 48 hexadecimal digits `secrets.token_hex(24)` prints. -/
abbrev SessionId := ℕ

/-- What `private_hash` is applied to. -/
inductive PrivateValue where
  | client (address : String)
  | csrf (token : String)
  | session (sid : SessionId)
deriving DecidableEq, Repr

/-- A presented session token; `malformed` is every text that does not split
into 48 and 64 hexadecimal digits. -/
inductive SessionToken where
  | malformed
  | signed (sid : SessionId) (signature : Digest)
deriving DecidableEq, Repr

structure Session where
  id : SessionId
  clientHash : Digest
  csrfHash : Digest
  created : ℚ
  expires : ℚ
  used : Bool
deriving DecidableEq, Repr

inductive JobStatus where
  | queued
  | running
  | expired
  | interrupted
  | completed
  | failed
  | budgetExhausted
deriving DecidableEq, Repr

/-- Neither waiting nor at work. -/
def JobStatus.Terminal (status : JobStatus) : Prop := status ≠ .queued ∧ status ≠ .running

instance (status : JobStatus) : Decidable status.Terminal :=
  inferInstanceAs (Decidable (_ ∧ _))

theorem JobStatus.terminal_expired : JobStatus.expired.Terminal := by decide

theorem JobStatus.terminal_interrupted : JobStatus.interrupted.Terminal := by decide

structure Job where
  id : Uuid
  sessionId : SessionId
  clientHash : Digest
  created : ℚ
  expires : ℚ
  status : JobStatus
deriving DecidableEq, Repr

structure Database where
  ledger : Ledger
  sessions : Table Session SessionId Session.id
  jobs : Table Job Uuid Job.id

namespace Broker

def taskId : String := "binary_protocol-repair-1"

def policy : String := "cheap_only"

def dayMicro : ℤ := 50000

def monthMicro : ℤ := 1000000

def requestMicro : ℤ := 5000

def rollingMicro : ℤ := 1000000

def sessionTtl : ℚ := 900

def queueTtl : ℚ := 180

def retentionSeconds : ℚ := 7 * 86400

/-- The ordinal of 1970-01-01. -/
def epochOrdinal : ℤ := 719163

/-- `boundaries`: the first instants of the day and of the month that
`datetime.fromtimestamp` reads off the clock.  A year that no `datetime` holds
raises. -/
def boundaries (now : ℚ) : Except StoreError (ℚ × ℚ) :=
  let ordinal := roundedDay now + epochOrdinal
  let year := (ord2ymd ordinal).year
  if 1 ≤ year ∧ year ≤ 9999 then
    .ok ((roundedDay now : ℚ) * 86400, ((monthStart ordinal - epochOrdinal : ℤ) : ℚ) * 86400)
  else .error (.valueError "year is out of range")

structure Limits where
  dayMicro : ℤ
  monthMicro : ℤ
  publicMicro : ℤ
  globalMicro : ℤ
  rollingPublicMicro : ℤ
  disabled : Bool
deriving DecidableEq, Repr

/-- Public charges created at an instant or later. -/
def publicFrom (ledger : Ledger) (instant : ℚ) : ℤ :=
  sumWhere Charge.charged (fun row => row.bucket = .publicLive ∧ row.created ≥ instant)
    ledger.charges.rows

def limits (ledger : Ledger) (now : ℚ) : Except StoreError Limits :=
  match boundaries now with
  | .error raised => .error raised
  | .ok (day, month) => .ok {
      dayMicro := publicFrom ledger day
      monthMicro := publicFrom ledger month
      publicMicro := ledger.bucketTotal .publicLive
      globalMicro := ledger.total
      rollingPublicMicro := ledger.publicAfter (now - 86400)
      disabled := ledger.providerDisabled.isSome }

section Secret

variable (privateHash : PrivateValue → Digest)

/-- `BrokerState.start_session` after its call of `prune`: the second of its
two transactions.  The session id and the csrf token are drawn at random. -/
def startSession (db : Database) (client : String) (sid : SessionId) (csrf : String) (now : ℚ) :
    Except StoreError Database :=
  let hashed := privateHash (.client client)
  let recent := db.sessions.rows.countP
    (fun row => row.clientHash = hashed ∧ row.created > now - 600)
  let total := db.sessions.rows.countP (fun row => row.created > now - 600)
  if recent ≥ 3 ∨ total ≥ 100 then
    .error (.rejected "session_limit" "Please use recorded replay and try the live trial later." 429)
  else
    match db.sessions.insert? {
        id := sid
        clientHash := hashed
        csrfHash := privateHash (.csrf csrf)
        created := now
        expires := now + sessionTtl
        used := false } with
    | none => .error .integrityError
    | some sessions => .ok { db with sessions := sessions }

/-- The token that `start_session` returns for a session. -/
def issuedToken (sid : SessionId) : SessionToken := .signed sid (privateHash (.session sid))

/-- `BrokerState.session`: look up the session a token names. -/
def session (db : Database) (token : SessionToken) (client : String) (csrf : Option String)
    (now : ℚ) : Except StoreError Session :=
  match token with
  | .malformed => .error (.rejected "session" "Start a new live-trial session." 403)
  | .signed sid signature =>
    if signature ≠ privateHash (.session sid) then
      .error (.rejected "session" "Start a new live-trial session." 403)
    else
      match db.sessions.find? sid with
      | none => .error (.rejected "session" "This live-trial session expired." 403)
      | some row =>
        if row.expires < now ∨ row.clientHash ≠ privateHash (.client client) then
          .error (.rejected "session" "This live-trial session expired." 403)
        else if csrf.any (fun text => row.csrfHash ≠ privateHash (.csrf text)) then
          .error (.rejected "csrf" "The live-trial request could not be verified." 403)
        else .ok row

end Secret

/-- The update that expires queued jobs, shared by `BrokerState.admit` and `claim`. -/
def expireQueued (jobs : Table Job Uuid Job.id) (now : ℚ) : Table Job Uuid Job.id :=
  jobs.update (fun row => row.status = .queued ∧ row.expires < now)
    (fun row => { row with status := .expired }) (fun _ => rfl)

def queuedCount (jobs : Table Job Uuid Job.id) : ℕ :=
  jobs.rows.countP (fun row => row.status = .queued)

def activeCount (jobs : Table Job Uuid Job.id) : ℕ :=
  jobs.rows.countP (fun row => row.status = .queued ∨ row.status = .running)

/-- The admission's own budget test, with room for one full request. -/
def admissionExhausted (figures : Limits) : Prop :=
  figures.disabled = true ∨ figures.dayMicro + requestMicro > dayMicro ∨
    figures.monthMicro + requestMicro > monthMicro ∨
    figures.publicMicro + requestMicro > Store.publicCap ∨
    figures.globalMicro + requestMicro > Store.totalCap

instance (figures : Limits) : Decidable (admissionExhausted figures) :=
  inferInstanceAs (Decidable (_ ∨ _))

def queuedJob (ident : Uuid) (row : Session) (now : ℚ) : Job where
  id := ident
  sessionId := row.id
  clientHash := row.clientHash
  created := now
  expires := now + queueTtl
  status := .queued

/-- `BrokerState.admit`.  The clock is read once before the transaction and
once more by the session check inside it. -/
def admitJob (privateHash : PrivateValue → Digest) (db : Database) (token : SessionToken)
    (client : String) (csrf : Option String) (task chosenPolicy : String) (ident : Uuid)
    (now checked : ℚ) : Except StoreError Database :=
  if task ≠ taskId ∨ chosenPolicy ≠ policy then
    .error (.rejected "curated_only" "Only the fixed demonstration is available." 422)
  else
    match session privateHash db token client csrf checked with
    | .error raised => .error raised
    | .ok row =>
      if row.used then
        .error (.rejected "replayed_request" "This session already started its trial." 409)
      else
        match boundaries now with
        | .error raised => .error raised
        | .ok (day, _) =>
          if ∃ job ∈ db.jobs.rows, job.clientHash = row.clientHash ∧ job.created ≥ day then
            .error (.rejected "client_limit"
              "One live trial per client each UTC day. Recorded runs remain available." 429)
          else
            match limits db.ledger now with
            | .error raised => .error raised
            | .ok figures =>
              if admissionExhausted figures then
                .error (.rejected "budget_limit"
                  "The shared live allowance is used up. Try recorded replay." 429)
              else
                let jobs := expireQueued db.jobs now
                if activeCount jobs ≥ 3 ∨ queuedCount jobs ≥ 2 then
                  .error (.rejected "queue_full"
                    "The live queue is full. Try recorded replay." 429)
                else
                  match jobs.insert? (queuedJob ident row now) with
                  | none => .error .integrityError
                  | some jobs => .ok {
                      db with
                      sessions := db.sessions.update (fun other => other.id = row.id)
                        (fun other => { other with used := true }) (fun _ => rfl)
                      jobs := jobs }

/-- `ORDER BY created,id`; hexadecimal texts of one length order as numbers. -/
def Precedes (first second : Job) : Prop :=
  first.created < second.created ∨ (first.created = second.created ∧ first.id ≤ second.id)

instance (first second : Job) : Decidable (Precedes first second) :=
  inferInstanceAs (Decidable (_ ∨ _))

/-- The first queued row in claim order. -/
def firstQueued : List Job → Option Job
  | [] => none
  | row :: rows =>
    match firstQueued rows with
    | none => if row.status = .queued then some row else none
    | some held => if row.status = .queued ∧ Precedes row held then some row else some held

/-- `BrokerState.claim`: the database and the claimed row. -/
def claim (db : Database) (now : ℚ) : Database × Option Job :=
  let jobs := expireQueued db.jobs now
  if ∃ job ∈ jobs.rows, job.status = .running then ({ db with jobs := jobs }, none)
  else
    match firstQueued jobs.rows with
    | none => ({ db with jobs := jobs }, none)
    | some row =>
      ({ db with
          jobs := jobs.update (fun job => job.id = row.id ∧ job.status = .queued)
            (fun job => { job with status := .running }) (fun _ => rfl) }, some row)

/-- `BrokerState.finish`, with the status of the result. -/
def finish (db : Database) (ident : Uuid) (status : JobStatus) : Database :=
  { db with
    jobs := db.jobs.update (fun job => job.id = ident ∧ job.status = .running)
      (fun job => { job with status := status }) (fun _ => rfl) }

/-- One round of the loop of `BrokerState.recover`. -/
def recoverJob (db : Database) (ident : Uuid) : Database :=
  { db with
    ledger := { db.ledger with
      charges := db.ledger.charges.update
        (fun row => row.status = .reserved ∧ row.runId = some (.recruiterLive ident))
        (fun row => { row with status := .uncertain }) Store.uncertain_id }
    jobs := db.jobs.update (fun job => job.id = ident)
      (fun job => { job with status := .interrupted }) (fun _ => rfl) }

def runningIds (jobs : Table Job Uuid Job.id) : List Uuid :=
  (jobs.rows.filter (fun job => job.status = .running)).map Job.id

def recover (db : Database) : Database := (runningIds db.jobs).foldl recoverJob db

/-- `BrokerState.prune`: the jobs go first, and a session stays as long as
one of the remaining jobs names it. -/
def prune (db : Database) (now : ℚ) : Database :=
  let jobs := db.jobs.delete
    (fun job => job.created < now - retentionSeconds ∧ job.status.Terminal)
  { db with
    jobs := jobs
    sessions := db.sessions.delete
      (fun row => row.expires < now ∧ row.id ∉ jobs.rows.map Job.sessionId) }

def liveModel : String := "openai/gpt-oss-20b"

/-- The reservation's budget test for a given amount. -/
def reservationExhausted (figures : Limits) (microUsd : ℤ) : Prop :=
  figures.dayMicro + microUsd > dayMicro ∨ figures.monthMicro + microUsd > monthMicro ∨
    figures.publicMicro + microUsd > Store.publicCap ∨
    figures.globalMicro + microUsd > Store.totalCap ∨
    figures.rollingPublicMicro + microUsd > rollingMicro

instance (figures : Limits) (microUsd : ℤ) : Decidable (reservationExhausted figures microUsd) :=
  inferInstanceAs (Decidable (_ ∨ _))

/-- `BrokerState.reserve`. -/
def reserve (db : Database) (model : String) (microUsd : ℤ) (runId : RunId) (ident : Uuid)
    (now : ℚ) : Except StoreError Database :=
  match runId with
  | .plain _ => .error (.budgetExceeded "Live-trial request exceeds its fixed allowance")
  | .recruiterLive job =>
    if ¬ (0 < microUsd ∧ microUsd ≤ requestMicro) ∨ model ≠ liveModel then
      .error (.budgetExceeded "Live-trial request exceeds its fixed allowance")
    else
      match limits db.ledger now with
      | .error raised => .error raised
      | .ok figures =>
        if figures.disabled then .error (.budgetExceeded "Live trial is paused")
        else if reservationExhausted figures microUsd then
          .error (.budgetExceeded "Live-trial day/month/lifetime allowance reached")
        else if ∃ row ∈ db.ledger.charges.rows, row.runId = some (.recruiterLive job) then
          .error (.budgetExceeded "The live trial already made its one provider request")
        else if ¬ ∃ row ∈ db.jobs.rows, row.id = job ∧ row.status = .running then
          .error (.budgetExceeded "Only an admitted running live trial may reserve a request")
        else
          match Store.insertCharge db.ledger (Store.reservedRow ident .publicLive model microUsd now
              (some (.recruiterLive job))) with
          | .error raised => .error raised
          | .ok ledger => .ok { db with ledger := ledger }

/-! ## What each transaction can do -/

theorem boundaries_ok {now day month : ℚ} (read : boundaries now = .ok (day, month)) :
    day = (roundedDay now : ℚ) * 86400 ∧
      month = ((monthStart (roundedDay now + epochOrdinal) - epochOrdinal : ℤ) : ℚ) * 86400 := by
  unfold boundaries at read
  simp only at read
  split at read
  · cases read
    exact ⟨rfl, rfl⟩
  · cases read

theorem limits_ok {ledger : Ledger} {now : ℚ} {figures : Limits}
    (read : limits ledger now = .ok figures) :
    ∃ day month, boundaries now = .ok (day, month) ∧
      figures.dayMicro = publicFrom ledger day ∧
      figures.monthMicro = publicFrom ledger month ∧
      figures.publicMicro = ledger.bucketTotal .publicLive ∧
      figures.globalMicro = ledger.total ∧
      figures.rollingPublicMicro = ledger.publicAfter (now - 86400) ∧
      figures.disabled = ledger.providerDisabled.isSome := by
  unfold limits at read
  split at read
  · cases read
  · next day month bounds =>
      cases read
      exact ⟨day, month, bounds, rfl, rfl, rfl, rfl, rfl, rfl⟩

/-- A session check that passes returns a stored, matching, live session. -/
theorem session_ok {privateHash : PrivateValue → Digest} {db : Database} {token : SessionToken}
    {client : String} {csrf : Option String} {now : ℚ} {row : Session}
    (found : session privateHash db token client csrf now = .ok row) :
    row ∈ db.sessions.rows ∧ now ≤ row.expires ∧
      row.clientHash = privateHash (.client client) ∧
      token = issuedToken privateHash row.id := by
  unfold session at found
  split at found
  · cases found
  · next sid signature =>
      split at found
      · cases found
      · next genuine =>
          split at found
          · cases found
          · next stored lookup =>
              split at found
              · cases found
              · next live =>
                  split at found
                  · cases found
                  · cases found
                    push Not at live genuine
                    rcases (Table.find?_eq_some_iff _ _ _).mp lookup with ⟨member, key⟩
                    refine ⟨member, live.1, live.2, ?_⟩
                    rw [issuedToken, key, genuine]

/-- A committed admission used an unused session of a client without a job
since the boundary of the day, found room in the queue, and stored one
queued job. -/
theorem admit_ok {privateHash : PrivateValue → Digest} {db after : Database}
    {token : SessionToken} {client : String} {csrf : Option String} {task chosenPolicy : String}
    {ident : Uuid} {now checked : ℚ}
    (committed : admitJob privateHash db token client csrf task chosenPolicy ident now checked =
      .ok after) :
    ∃ row day month figures,
      session privateHash db token client csrf checked = .ok row ∧ row.used = false ∧
      boundaries now = .ok (day, month) ∧
      (∀ job ∈ db.jobs.rows, job.clientHash = row.clientHash → job.created < day) ∧
      limits db.ledger now = .ok figures ∧ ¬ admissionExhausted figures ∧
      activeCount (expireQueued db.jobs now) < 3 ∧ queuedCount (expireQueued db.jobs now) < 2 ∧
      after.ledger = db.ledger ∧
      after.sessions = db.sessions.update (fun other => other.id = row.id)
        (fun other => { other with used := true }) (fun _ => rfl) ∧
      after.jobs.rows = (expireQueued db.jobs now).rows ++ [queuedJob ident row now] ∧
      ∀ job ∈ db.jobs.rows, job.id ≠ ident := by
  unfold admitJob at committed
  split at committed
  · cases committed
  · split at committed
    · cases committed
    · next row opened =>
        split at committed
        · cases committed
        · next unused =>
            split at committed
            · cases committed
            · next day month bounds =>
                split at committed
                · cases committed
                · next alone =>
                    split at committed
                    · cases committed
                    · next figures read =>
                        split at committed
                        · cases committed
                        · next afford =>
                            simp only at committed
                            split at committed
                            · cases committed
                            · next room =>
                                split at committed
                                · cases committed
                                · next jobs stored =>
                                    cases committed
                                    push Not at room alone
                                    rcases Table.insert?_eq_some stored with ⟨rows, fresh⟩
                                    refine ⟨row, day, month, figures, opened, by simpa using unused,
                                      bounds, alone, read, afford, room.1, room.2, rfl, rfl, rows,
                                      ?_⟩
                                    intro job member same
                                    have keys :
                                        job.id ∈ (expireQueued db.jobs now).rows.map Job.id := by
                                      rw [expireQueued, Table.update_keys]
                                      exact List.mem_map_of_mem member
                                    rcases List.mem_map.mp keys with ⟨other, otherStored, otherKey⟩
                                    exact fresh other otherStored (otherKey.trans same)

/-- A committed reservation of the live trial names a running job without an
earlier charge, fits all limits, and appends one public row. -/
theorem reserve_ok {db after : Database} {model : String} {microUsd : ℤ} {runId : RunId}
    {ident : Uuid} {now : ℚ}
    (committed : reserve db model microUsd runId ident now = .ok after) :
    ∃ job figures ledger, runId = .recruiterLive job ∧ 0 < microUsd ∧ microUsd ≤ requestMicro ∧
      limits db.ledger now = .ok figures ∧ db.ledger.providerDisabled = none ∧
      ¬ reservationExhausted figures microUsd ∧
      (∀ row ∈ db.ledger.charges.rows, row.runId ≠ some (.recruiterLive job)) ∧
      (∃ row ∈ db.jobs.rows, row.id = job ∧ row.status = .running) ∧
      Store.insertCharge db.ledger (Store.reservedRow ident .publicLive model microUsd now
        (some (.recruiterLive job))) = .ok ledger ∧
      after = { db with ledger := ledger } := by
  unfold reserve at committed
  split at committed
  · cases committed
  · next job =>
      split at committed
      · cases committed
      · next shape =>
          split at committed
          · cases committed
          · next figures read =>
              split at committed
              · cases committed
              · next enabled =>
                  split at committed
                  · cases committed
                  · next afford =>
                      split at committed
                      · cases committed
                      · next first =>
                          split at committed
                          · cases committed
                          · next running =>
                              split at committed
                              · cases committed
                              · next ledger inserted =>
                                  cases committed
                                  push Not at shape first
                                  rcases limits_ok read with ⟨_, _, _, _, _, _, _, _, pause⟩
                                  refine ⟨job, figures, ledger, rfl, shape.1.1, shape.1.2, read, ?_,
                                    afford, first, not_not.mp running, inserted, rfl⟩
                                  rw [pause] at enabled
                                  simpa using enabled

theorem firstQueued_some {rows : List Job} {row : Job} (found : firstQueued rows = some row) :
    row ∈ rows ∧ row.status = .queued := by
  apply scan_eq_some (fun row : Job => row.status = .queued) Precedes rfl _ found
  intro row rows
  rw [firstQueued]
  cases firstQueued rows <;> rfl

/-- A claim only expires queued rows, unless it returns a queued row and
sets exactly that row to running while no other row is. -/
theorem claim_spec (db : Database) (now : ℚ) :
    claim db now = ({ db with jobs := expireQueued db.jobs now }, none) ∨
      ∃ row ∈ (expireQueued db.jobs now).rows, row.status = .queued ∧
        (∀ job ∈ (expireQueued db.jobs now).rows, job.status ≠ .running) ∧
        claim db now = ({ db with
          jobs := (expireQueued db.jobs now).update
            (fun job => job.id = row.id ∧ job.status = .queued)
            (fun job => { job with status := .running }) (fun _ => rfl) }, some row) := by
  unfold claim
  simp only
  split
  · exact Or.inl rfl
  · next idle =>
      push Not at idle
      cases chosen : firstQueued (expireQueued db.jobs now).rows with
      | none => exact Or.inl rfl
      | some row =>
          have found := firstQueued_some chosen
          exact Or.inr ⟨row, found.1, found.2, idle, rfl⟩

theorem claim_ledger (db : Database) (now : ℚ) : (claim db now).1.ledger = db.ledger := by
  rcases claim_spec db now with waiting | ⟨row, _, _, _, started⟩
  · rw [waiting]
  · rw [started]

/-- A committed `start_session` appends one unused session row. -/
theorem startSession_ok {privateHash : PrivateValue → Digest} {db after : Database}
    {client : String} {sid : SessionId} {csrf : String} {now : ℚ}
    (committed : startSession privateHash db client sid csrf now = .ok after) :
    after.ledger = db.ledger ∧ after.jobs = db.jobs ∧
      ∃ row : Session, row.id = sid ∧ row.used = false ∧
        after.sessions.rows = db.sessions.rows ++ [row] := by
  unfold startSession at committed
  simp only at committed
  split at committed
  · cases committed
  · split at committed
    · cases committed
    · next sessions stored =>
        cases committed
        exact ⟨rfl, rfl, _, rfl, rfl, (Table.insert?_eq_some stored).1⟩

/-- The row updates of recovery, job by job, are one update of the charges. -/
theorem recover_charges (db : Database) (idents : List Uuid) :
    (idents.foldl recoverJob db).ledger = { db.ledger with
      charges := db.ledger.charges.update
        (fun row => row.status = .reserved ∧ ∃ ident ∈ idents, row.runId = some (.recruiterLive ident))
        (fun row => { row with status := .uncertain }) (fun _ => rfl) } := by
  induction idents generalizing db with
  | nil =>
      simp only [List.foldl_nil, List.not_mem_nil, false_and, exists_const, and_false]
      have same : db.ledger.charges.update (fun _ => False)
          (fun row => { row with status := .uncertain }) (fun _ => rfl) = db.ledger.charges := by
        apply Table.ext
        simp [Table.update_rows]
      rw [same]
  | cons ident idents ih =>
      rw [List.foldl_cons, ih (recoverJob db ident)]
      simp only [recoverJob]
      congr 1
      apply Table.ext
      simp only [Table.update_rows, List.map_map]
      apply List.map_congr_left
      intro row _
      by_cases held : row.status = .reserved
      · by_cases own : row.runId = some (.recruiterLive ident)
        · simp [held, own]
        · simp [held, own]
      · simp [held]

theorem recover_jobs (db : Database) (idents : List Uuid) :
    (idents.foldl recoverJob db).jobs =
      db.jobs.update (fun job => job.id ∈ idents)
        (fun job => { job with status := .interrupted }) (fun _ => rfl) := by
  induction idents generalizing db with
  | nil =>
      apply Table.ext
      simp [Table.update_rows]
  | cons ident idents ih =>
      rw [List.foldl_cons, ih (recoverJob db ident)]
      apply Table.ext
      simp only [recoverJob, Table.update_rows, List.map_map]
      apply List.map_congr_left
      intro job _
      by_cases own : job.id = ident
      · simp [own]
      · simp [own]

theorem recover_sessions (db : Database) (idents : List Uuid) :
    (idents.foldl recoverJob db).sessions = db.sessions := by
  induction idents generalizing db with
  | nil => rfl
  | cons ident idents ih => exact ih (recoverJob db ident)

end Broker

end ForgeRL
