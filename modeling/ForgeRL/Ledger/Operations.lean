import ForgeRL.Ledger.Broker
import ForgeRL.Library.Machine

namespace ForgeRL

open Library

/-!
# Interleaved transactions on one database

Every client of the ledger (the studies, the live worker, the gateway, a
restarted broker) works through the transactions below, and SQLite serializes
them.  An interleaving is therefore a list of operations, and a refused
operation leaves the database as it was.

`LedgerStep` says once what any operation can do to the charges and to the
pause.  The ledger invariants are proved over its five constructors and never
unfold an operation again.
-/

inductive Operation where
  /-- `Store.reserve` -/
  | storeReserve (bucket : Bucket) (model : String) (microUsd : ℤ) (runId : Option RunId)
      (ident : Uuid) (now : ℚ)
  /-- `BrokerState.reserve` -/
  | brokerReserve (model : String) (microUsd : ℤ) (runId : RunId) (ident : Uuid) (now : ℚ)
  /-- `Store.settle` -/
  | settle (ident : Uuid) (microUsd : Option ℤ) (usage : Option TokenUsage)
  /-- The pause that a provider records after HTTP 401, 402 or 403. -/
  | recordProviderAccess
  /-- `BrokerState.recover` -/
  | recover
  /-- `BrokerState.start_session`, without the `prune` it calls first. -/
  | startSession (client : String) (sid : SessionId) (csrf : String) (now : ℚ)
  /-- `BrokerState.prune` -/
  | prune (now : ℚ)
  /-- `BrokerState.admit` -/
  | admitJob (token : SessionToken) (client : String) (csrf : Option String)
      (task chosenPolicy : String) (ident : Uuid) (now checked : ℚ)
  /-- `BrokerState.claim` -/
  | claim (now : ℚ)
  /-- `BrokerState.finish` -/
  | finish (ident : Uuid) (status : JobStatus)
deriving DecidableEq, Repr

namespace Database

def empty : Database := ⟨⟨∅, none⟩, ∅, ∅⟩

end Database

section Secret

variable (privateHash : PrivateValue → Digest)

/-- Run one transaction. -/
def attempt (db : Database) : Operation → Except StoreError Database
  | .storeReserve bucket model microUsd runId ident now =>
    match Store.reserve db.ledger bucket model microUsd runId ident now with
    | .error raised => .error raised
    | .ok ledger => .ok { db with ledger := ledger }
  | .brokerReserve model microUsd runId ident now =>
    Broker.reserve db model microUsd runId ident now
  | .settle ident microUsd usage =>
    match Store.settle db.ledger ident microUsd usage with
    | .error raised => .error raised
    | .ok ledger => .ok { db with ledger := ledger }
  | .recordProviderAccess => .ok { db with ledger := Store.recordProviderAccess db.ledger }
  | .recover => .ok (Broker.recover db)
  | .startSession client sid csrf now => Broker.startSession privateHash db client sid csrf now
  | .prune now => .ok (Broker.prune db now)
  | .admitJob token client csrf task chosenPolicy ident now checked =>
    Broker.admitJob privateHash db token client csrf task chosenPolicy ident now checked
  | .claim now => .ok (Broker.claim db now).1
  | .finish ident status => .ok (Broker.finish db ident status)

/-- The database after one transaction: a raise rolls back. -/
def exec (db : Database) (operation : Operation) : Database :=
  match attempt privateHash db operation with
  | .error _ => db
  | .ok after => after

end Secret

/-! ## What a transaction leaves alone -/

/-- The transactions on the charges and the pause. -/
def Operation.OnLedger : Operation → Bool
  | .storeReserve .. | .brokerReserve .. | .settle .. | .recordProviderAccess => true
  | _ => false

/-- The transactions on the sessions and the queue. -/
def Operation.OnQueue : Operation → Bool
  | .startSession .. | .prune .. | .admitJob .. | .claim .. | .finish .. => true
  | _ => false

section Outcomes

variable {privateHash : PrivateValue → Digest} {db after : Database}

theorem attempt_storeReserve_ok {bucket : Bucket} {model : String} {microUsd : ℤ}
    {runId : Option RunId} {ident : Uuid} {now : ℚ}
    (outcome : attempt privateHash db (.storeReserve bucket model microUsd runId ident now) =
      .ok after) :
    ∃ ledger, Store.reserve db.ledger bucket model microUsd runId ident now = .ok ledger ∧
      after = { db with ledger := ledger } := by
  simp only [attempt] at outcome
  split at outcome
  · cases outcome
  · next ledger committed =>
      cases outcome
      exact ⟨ledger, committed, rfl⟩

theorem attempt_settle_ok {ident : Uuid} {microUsd : Option ℤ} {usage : Option TokenUsage}
    (outcome : attempt privateHash db (.settle ident microUsd usage) = .ok after) :
    ∃ ledger, Store.settle db.ledger ident microUsd usage = .ok ledger ∧
      after = { db with ledger := ledger } := by
  simp only [attempt] at outcome
  split at outcome
  · cases outcome
  · next ledger committed =>
      cases outcome
      exact ⟨ledger, committed, rfl⟩

theorem attempt_onLedger {operation : Operation} (onLedger : operation.OnLedger = true)
    (outcome : attempt privateHash db operation = .ok after) :
    after = { db with ledger := after.ledger } := by
  cases operation with
  | storeReserve bucket model microUsd runId ident now =>
      rcases attempt_storeReserve_ok outcome with ⟨ledger, _, rfl⟩
      rfl
  | brokerReserve model microUsd runId ident now =>
      rcases Broker.reserve_ok outcome with ⟨_, _, _, _, _, _, _, _, _, _, _, _, rfl⟩
      rfl
  | settle ident microUsd usage =>
      rcases attempt_settle_ok outcome with ⟨ledger, _, rfl⟩
      rfl
  | recordProviderAccess =>
      cases outcome
      rfl
  | _ => cases onLedger

theorem attempt_onQueue {operation : Operation} (onQueue : operation.OnQueue = true)
    (outcome : attempt privateHash db operation = .ok after) : after.ledger = db.ledger := by
  cases operation with
  | startSession client sid csrf now => exact (Broker.startSession_ok outcome).1
  | prune now =>
      cases outcome
      rfl
  | admitJob token client csrf task chosenPolicy ident now checked =>
      rcases Broker.admit_ok outcome with ⟨_, _, _, _, _, _, _, _, _, _, _, _, same, _⟩
      exact same
  | claim now =>
      cases outcome
      exact Broker.claim_ledger db now
  | finish ident status =>
      cases outcome
      rfl
  | _ => cases onQueue

end Outcomes

/-! ## What one transaction can do to the ledger -/

/-- The checks that every reservation of a row passes, whoever makes it. -/
structure Reservable (ledger : Ledger) (row : Charge) : Prop where
  status : row.status = .reserved
  whole : row.charged = row.reserved
  positive : 0 < row.charged
  enabled : ledger.providerDisabled = none
  total : ledger.total + row.charged ≤ Store.totalCap
  bucket : ∃ cap, Store.caps row.bucket = some cap ∧
    ledger.bucketTotal row.bucket + row.charged ≤ cap
  rolling : row.bucket = .publicLive →
    ledger.publicAfter (row.created - 86400) + row.charged ≤ 1000000

def markUncertain (ledger : Ledger) (jobs : List Uuid) : Ledger :=
  { ledger with
    charges := ledger.charges.update
      (fun row => row.status = .reserved ∧ ∃ job ∈ jobs, row.runId = some (.recruiterLive job))
      (fun row => { row with status := .uncertain }) Store.uncertain_id }

/-- What a transaction does to the ledger.  The parameter tells which rows it
may settle, and with which amounts. -/
inductive LedgerStep (settles : Charge → Option ℤ → Prop) : Ledger → Ledger → Prop where
  | idle (ledger : Ledger) : LedgerStep settles ledger ledger
  | reserved {ledger after : Ledger} (row : Charge) (checked : Reservable ledger row)
      (inserted : Store.insertCharge ledger row = .ok after) : LedgerStep settles ledger after
  | settled {ledger : Ledger} (row : Charge) (microUsd : Option ℤ) (usage : Option TokenUsage)
      (stored : row ∈ ledger.charges.rows) (held : row.status = .reserved)
      (asked : settles row microUsd) :
      LedgerStep settles ledger (Store.settled ledger row microUsd usage)
  | paused (ledger : Ledger) : LedgerStep settles ledger (Store.recordProviderAccess ledger)
  | recovered (ledger : Ledger) (jobs : List Uuid) :
      LedgerStep settles ledger (markUncertain ledger jobs)

/-- The operation settles the row with the amount. -/
def Operation.Settles (operation : Operation) (row : Charge) (microUsd : Option ℤ) : Prop :=
  ∃ usage, operation = .settle row.id microUsd usage

theorem reservable_of_storeReserve {ledger after : Ledger} {bucket : Bucket} {model : String}
    {microUsd : ℤ} {runId : Option RunId} {ident : Uuid} {now : ℚ}
    (committed : Store.reserve ledger bucket model microUsd runId ident now = .ok after) :
    Reservable ledger (Store.reservedRow ident bucket model microUsd now runId) := by
  rcases Store.reserve_ok committed with ⟨cap, known, positive, _, enabled, total, room, rolling, _⟩
  exact ⟨rfl, rfl, positive, enabled, total, ⟨cap, known, room⟩, rolling⟩

theorem reservable_of_brokerReserve {ledger : Ledger} {figures : Broker.Limits} {model : String}
    {microUsd : ℤ} {runId : Option RunId} {ident : Uuid} {now : ℚ} (positive : 0 < microUsd)
    (enabled : ledger.providerDisabled = none) (read : Broker.limits ledger now = .ok figures)
    (afford : ¬ Broker.reservationExhausted figures microUsd) :
    Reservable ledger (Store.reservedRow ident .publicLive model microUsd now runId) := by
  rcases Broker.limits_ok read with ⟨_, _, _, _, _, lifetime, total, rolling, _⟩
  rw [Broker.reservationExhausted, lifetime, total, rolling] at afford
  push Not at afford
  exact ⟨rfl, rfl, positive, enabled, afford.2.2.2.1, ⟨_, rfl, afford.2.2.1⟩,
    fun _ => afford.2.2.2.2⟩

/-- The inversion of a transaction at the ledger. -/
theorem exec_ledgerStep (privateHash : PrivateValue → Digest) (db : Database)
    (operation : Operation) :
    LedgerStep operation.Settles db.ledger (exec privateHash db operation).ledger := by
  unfold exec
  cases outcome : attempt privateHash db operation with
  | error raised => exact .idle db.ledger
  | ok after =>
      simp only
      by_cases onQueue : operation.OnQueue = true
      · rw [attempt_onQueue onQueue outcome]
        exact .idle db.ledger
      · cases operation with
        | storeReserve bucket model microUsd runId ident now =>
            rcases attempt_storeReserve_ok outcome with ⟨ledger, committed, rfl⟩
            rcases Store.reserve_ok committed with ⟨_, _, _, _, _, _, _, _, inserted⟩
            exact .reserved _ (reservable_of_storeReserve committed) inserted
        | brokerReserve model microUsd runId ident now =>
            rcases Broker.reserve_ok outcome with
              ⟨job, figures, ledger, _, positive, _, read, enabled, afford, _, _, inserted, rfl⟩
            exact .reserved _ (reservable_of_brokerReserve positive enabled read afford) inserted
        | settle ident microUsd usage =>
            rcases attempt_settle_ok outcome with ⟨ledger, committed, rfl⟩
            rcases Store.settle_ok committed with ⟨row, stored, rfl, held, _, rfl⟩
            exact .settled row microUsd usage stored held ⟨usage, rfl⟩
        | recordProviderAccess =>
            cases outcome
            exact .paused db.ledger
        | recover =>
            cases outcome
            rw [Broker.recover, Broker.recover_charges]
            exact .recovered db.ledger (Broker.runningIds db.jobs)
        | _ => exact absurd rfl onQueue

end ForgeRL
