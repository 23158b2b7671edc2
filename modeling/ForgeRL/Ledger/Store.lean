import ForgeRL.Library.Table
import Mathlib.Data.Rat.Floor

namespace ForgeRL

open Library

/-!
# The durable ledger of charges

`Store` keeps one row per provider request.  A reservation inserts a row with
its full amount already charged; a settlement lowers or replaces the charged
amount.  An over-settlement keeps the reported amount and pauses inference in
the same transaction.

Every operation here is one `BEGIN IMMEDIATE` transaction: it either commits
the ledger it returns or raises, and a raise leaves the database as it was.
Amounts are integer micro-USD.  Clock readings are exact rationals; every
float is one, and subtracting a day from a reading after 1970-01-02 is exact.
-/

/-- The number whose 32 hexadecimal digits `uuid4().hex` prints. -/
abbrev Uuid := ℕ

/-- The run a charge belongs to.  `recruiterLive` are exactly the texts that
match `recruiter-live:[a-f0-9]{32}`. -/
inductive RunId where
  | recruiterLive (job : Uuid)
  | plain (text : String)
deriving DecidableEq, Repr

/-- The spending buckets; `publicLive` is the bucket named "public". -/
inductive Bucket where
  | research
  | publicLive
  | unknown (name : String)
deriving DecidableEq, Repr

inductive ChargeStatus where
  | reserved
  | uncertain
  | estimated
deriving DecidableEq, Repr

/-- The usage dictionary a settlement stores as JSON. -/
structure TokenUsage where
  prompt_tokens : ℤ
  completion_tokens : ℤ
  total_tokens : ℤ
deriving DecidableEq, Repr

/-- A row of `charges`.  The outer level of `usageJson` is SQL NULL, the
inner level is JSON `null`. -/
structure Charge where
  id : Uuid
  bucket : Bucket
  model : String
  reserved : ℤ
  charged : ℤ
  status : ChargeStatus
  created : ℚ
  usageJson : Option (Option TokenUsage)
  runId : Option RunId
deriving DecidableEq, Repr

inductive StoreError where
  | valueError (message : String)
  | budgetExceeded (message : String)
  | rejected (code message : String) (status : ℕ)
  /-- A primary key that is already present. -/
  | integrityError
  /-- A Python integer that no SQLite integer holds. -/
  | overflowError
deriving DecidableEq, Repr

abbrev Charges := Table Charge Uuid Charge.id

/-- The `charges` table and the `provider_disabled` setting. -/
structure Ledger where
  charges : Charges
  providerDisabled : Option String

namespace Store

def publicCap : ℤ := 8000000

/-- `Store.CAPS`; a name outside it has no cap. -/
def caps : Bucket → Option ℤ
  | .research => some 12000000
  | .publicLive => some publicCap
  | .unknown _ => none

def totalCap : ℤ := 20000000

/-- The largest integer a SQLite column stores. -/
def maxInteger : ℤ := 9223372036854775807

end Store

namespace Ledger

def total (ledger : Ledger) : ℤ :=
  sumWhere Charge.charged (fun _ => True) ledger.charges.rows

def bucketTotal (ledger : Ledger) (bucket : Bucket) : ℤ :=
  sumWhere Charge.charged (fun row => row.bucket = bucket) ledger.charges.rows

/-- Public charges created strictly after an instant. -/
def publicAfter (ledger : Ledger) (instant : ℚ) : ℤ :=
  sumWhere Charge.charged (fun row => row.bucket = .publicLive ∧ row.created > instant)
    ledger.charges.rows

end Ledger

namespace Store

/-- The row that a reservation inserts. -/
def reservedRow (ident : Uuid) (bucket : Bucket) (model : String) (microUsd : ℤ) (now : ℚ)
    (runId : Option RunId) : Charge where
  id := ident
  bucket := bucket
  model := model
  reserved := microUsd
  charged := microUsd
  status := .reserved
  created := now
  usageJson := none
  runId := runId

def insertCharge (ledger : Ledger) (row : Charge) : Except StoreError Ledger :=
  match ledger.charges.insert? row with
  | none => .error .integrityError
  | some charges => .ok { ledger with charges := charges }

/-- `Store.reserve`.  The identifier and the clock reading are drawn before
the transaction begins. -/
def reserve (ledger : Ledger) (bucket : Bucket) (model : String) (microUsd : ℤ)
    (runId : Option RunId) (ident : Uuid) (now : ℚ) : Except StoreError Ledger :=
  match caps bucket with
  | none => .error (.valueError "Invalid reservation")
  | some cap =>
    if ¬ (0 < microUsd ∧ microUsd ≤ 500000) then .error (.valueError "Invalid reservation")
    else if ledger.providerDisabled.isSome then
      .error (.budgetExceeded "Inference paused after an accounting discrepancy")
    else if ledger.total + microUsd > totalCap ∨ ledger.bucketTotal bucket + microUsd > cap then
      .error (.budgetExceeded "The project inference allowance is exhausted")
    else if bucket = .publicLive ∧ ledger.publicAfter (now - 86400) + microUsd > 1000000 then
      .error (.budgetExceeded "Today's shared live allowance has been reached")
    else insertCharge ledger (reservedRow ident bucket model microUsd now runId)

/-- The amount a settlement records for a row. -/
def settledAmount (row : Charge) (microUsd : Option ℤ) : ℤ :=
  match microUsd with
  | none => row.reserved
  | some amount => max 0 amount

def settleRow (microUsd : Option ℤ) (usage : Option TokenUsage) (row : Charge) : Charge :=
  { row with
    charged := settledAmount row microUsd
    status := match microUsd with | none => .uncertain | some _ => .estimated
    usageJson := some usage }

theorem settleRow_id (microUsd : Option ℤ) (usage : Option TokenUsage) (row : Charge) :
    (settleRow microUsd usage row).id = row.id := rfl

theorem uncertain_id (row : Charge) : { row with status := .uncertain }.id = row.id := rfl

/-- The ledger after a settlement of a stored row. -/
def settled (ledger : Ledger) (row : Charge) (microUsd : Option ℤ)
    (usage : Option TokenUsage) : Ledger where
  charges := ledger.charges.update (fun other => other.id = row.id)
    (settleRow microUsd usage) (settleRow_id microUsd usage)
  providerDisabled :=
    if settledAmount row microUsd > row.reserved then some "reservation_exceeded"
    else ledger.providerDisabled

/-- `Store.settle`.  The pause of an over-settlement and the update of the
row commit together; an amount that no SQLite integer holds fails the update
and rolls the pause back. -/
def settle (ledger : Ledger) (ident : Uuid) (microUsd : Option ℤ)
    (usage : Option TokenUsage) : Except StoreError Ledger :=
  match ledger.charges.find? ident with
  | none => .error (.valueError "Unknown or already settled reservation")
  | some row =>
    if row.status ≠ .reserved then .error (.valueError "Unknown or already settled reservation")
    else if settledAmount row microUsd > maxInteger then .error .overflowError
    else .ok (settled ledger row microUsd usage)

/-- The insert with which a provider records HTTP 401, 402 or 403: an earlier
reason is kept. -/
def recordProviderAccess (ledger : Ledger) : Ledger :=
  { ledger with providerDisabled := some (ledger.providerDisabled.getD "provider_access") }

/-- The figures of `Store.budget` in micro-USD. -/
structure Budget where
  charged : ℤ
  remaining : ℤ
  totalCharged : ℤ
  disabled : Bool
deriving DecidableEq, Repr

def budget (ledger : Ledger) (bucket : Bucket) : Except StoreError Budget :=
  match caps bucket with
  | none => .error (.valueError "Unknown budget bucket")
  | some cap => .ok {
      charged := ledger.bucketTotal bucket
      remaining := max 0 (min (cap - ledger.bucketTotal bucket) (totalCap - ledger.total))
      totalCharged := ledger.total
      disabled := ledger.providerDisabled.isSome }

/-- `Store.budget("research")`, which never raises. -/
def researchBudget (ledger : Ledger) : Budget where
  charged := ledger.bucketTotal .research
  remaining := max 0 (min (12000000 - ledger.bucketTotal .research) (totalCap - ledger.total))
  totalCharged := ledger.total
  disabled := ledger.providerDisabled.isSome

example (ledger : Ledger) : budget ledger .research = .ok (researchBudget ledger) := rfl

/-- An amount in micro-USD as the source reports it. -/
def usd (microUsd : ℤ) : ℚ := microUsd / 1000000

theorem usd_le_usd {first second : ℤ} : usd first ≤ usd second ↔ first ≤ second := by
  rw [usd, usd, div_le_div_iff_of_pos_right (by norm_num), Int.cast_le]

theorem usd_add (first second : ℤ) : usd (first + second) = usd first + usd second := by
  rw [usd, usd, usd, Int.cast_add, add_div]

/-! ## What each transaction can do -/

theorem insertCharge_ok {ledger after : Ledger} {row : Charge}
    (inserted : insertCharge ledger row = .ok after) :
    after.charges.rows = ledger.charges.rows ++ [row] ∧
      (∀ other ∈ ledger.charges.rows, other.id ≠ row.id) ∧
      after.providerDisabled = ledger.providerDisabled := by
  unfold insertCharge at inserted
  split at inserted
  · cases inserted
  · next charges stored =>
      cases inserted
      have rows := Table.insert?_eq_some stored
      exact ⟨rows.1, rows.2, rfl⟩

/-- A committed reservation passed every check and appended one row. -/
theorem reserve_ok {ledger after : Ledger} {bucket : Bucket} {model : String} {microUsd : ℤ}
    {runId : Option RunId} {ident : Uuid} {now : ℚ}
    (committed : reserve ledger bucket model microUsd runId ident now = .ok after) :
    ∃ cap, caps bucket = some cap ∧ 0 < microUsd ∧ microUsd ≤ 500000 ∧
      ledger.providerDisabled = none ∧ ledger.total + microUsd ≤ totalCap ∧
      ledger.bucketTotal bucket + microUsd ≤ cap ∧
      (bucket = .publicLive → ledger.publicAfter (now - 86400) + microUsd ≤ 1000000) ∧
      insertCharge ledger (reservedRow ident bucket model microUsd now runId) = .ok after := by
  unfold reserve at committed
  split at committed
  · cases committed
  · next cap known =>
      split at committed
      · cases committed
      · next amount =>
          split at committed
          · cases committed
          · next enabled =>
              split at committed
              · cases committed
              · next allowance =>
                  split at committed
                  · cases committed
                  · next rolling =>
                      push Not at amount allowance rolling
                      refine ⟨cap, known, amount.1, amount.2, ?_, allowance.1, allowance.2,
                        rolling, committed⟩
                      simpa using enabled

/-- A committed settlement rewrote exactly one reserved row. -/
theorem settle_ok {ledger after : Ledger} {ident : Uuid} {microUsd : Option ℤ}
    {usage : Option TokenUsage} (committed : settle ledger ident microUsd usage = .ok after) :
    ∃ row ∈ ledger.charges.rows, row.id = ident ∧ row.status = .reserved ∧
      settledAmount row microUsd ≤ maxInteger ∧ after = settled ledger row microUsd usage := by
  unfold settle at committed
  split at committed
  · cases committed
  · next row found =>
      split at committed
      · cases committed
      · next reserved =>
          split at committed
          · cases committed
          · next fits =>
              cases committed
              rcases (Table.find?_eq_some_iff _ _ _).mp found with ⟨stored, key⟩
              exact ⟨row, stored, key, by simpa using reserved, by omega, rfl⟩

/-- A settlement of an unknown row, or of one that was settled before,
raises. -/
theorem settle_of_not_reserved (ledger : Ledger) (ident : Uuid) (microUsd : Option ℤ)
    (usage : Option TokenUsage)
    (missing : ∀ row ∈ ledger.charges.rows, row.id = ident → row.status ≠ .reserved) :
    settle ledger ident microUsd usage =
      .error (.valueError "Unknown or already settled reservation") := by
  unfold settle
  cases found : ledger.charges.find? ident with
  | none => rfl
  | some row =>
      rcases (Table.find?_eq_some_iff _ _ _).mp found with ⟨stored, key⟩
      simp only [missing row stored key, ne_eq, not_false_eq_true, if_true]

/-- A settlement of a reserved row commits when the amount fits the column. -/
theorem settle_of_reserved {ledger : Ledger} {row : Charge} (stored : row ∈ ledger.charges.rows)
    (reserved : row.status = .reserved) (microUsd : Option ℤ) (usage : Option TokenUsage)
    (fits : settledAmount row microUsd ≤ maxInteger) :
    settle ledger row.id microUsd usage = .ok (settled ledger row microUsd usage) := by
  have found : ledger.charges.find? row.id = some row :=
    (Table.find?_eq_some_iff _ _ _).mpr ⟨stored, rfl⟩
  unfold settle
  simp only [found, reserved, ne_eq, not_true_eq_false, if_false, if_neg (not_lt.mpr fits)]

end Store

end ForgeRL
