import ForgeRL.Ledger.Safety
import Mathlib.Data.Real.Basic

namespace ForgeRL

open Library

/-!
# Public spending windows

A public reservation is compared with the charges of the current day, of the
current month and of the last 24 hours, at one clock reading.  The limits are
meant for all windows at once: every UTC day, every calendar month, every
half-open interval of 86,400 seconds.

The last row committed inside a window decides the window.  Its own check
counted every other row that the window can hold, because the checks have no
upper end; the order in which clock readings commit therefore does not matter.

The day and the month of a check are those that `datetime.fromtimestamp` reads
after rounding to microseconds.  A reading less than half a microsecond before
midnight is checked against the following day, whose charges do not include
the row that is being inserted.  The rolling limit does not pass through a
date, and has no such exception.
-/

namespace Ledger

/-- Public charges created on a UTC day. -/
def dayPublic (ledger : Ledger) (day : ℤ) : ℤ :=
  sumWhere Charge.charged (fun row => row.bucket = .publicLive ∧ utcDay row.created = day)
    ledger.charges.rows

/-- The year and the month of an instant. -/
def calendarMonth (instant : ℚ) : ℤ × ℕ :=
  let date := ord2ymd (utcDay instant + Broker.epochOrdinal)
  (date.year, date.month)

/-- Public charges created in a UTC calendar month. -/
def monthPublic (ledger : Ledger) (month : ℤ × ℕ) : ℤ :=
  sumWhere Charge.charged
    (fun row => row.bucket = .publicLive ∧ calendarMonth row.created = month) ledger.charges.rows

/-- Public charges created in the 86,400 seconds up to a real instant. -/
noncomputable def windowPublic (ledger : Ledger) (instant : ℝ) : ℤ :=
  sumWhere Charge.charged
    (fun row => row.bucket = .publicLive ∧ instant - 86400 < (row.created : ℝ) ∧
      (row.created : ℝ) ≤ instant) ledger.charges.rows

end Ledger

/-- A public reservation that does not go through the broker. -/
def Operation.reservesPublicInStore : Operation → Bool
  | .storeReserve bucket _ _ _ _ _ => decide (bucket = .publicLive)
  | _ => false

/-- A broker reservation whose clock reading is rounded up into the next UTC
day. -/
def Operation.reservationRoundedUp : Operation → Bool
  | .brokerReserve _ _ _ _ now => decide (roundedDay now ≠ utcDay now)
  | _ => false

/-! ## The rolling window -/

theorem static_window (instant : ℝ) :
    Ledger.Static (fun row => row.bucket = .publicLive ∧ instant - 86400 < (row.created : ℝ) ∧
      (row.created : ℝ) ≤ instant) := by
  intro first second bucket created
  simp only [bucket, created]

/-- The last row of a window was checked against all its other rows. -/
theorem LedgerStep.window_limit {settles : Charge → Option ℤ → Prop} {ledger after : Ledger}
    (step : LedgerStep settles ledger after)
    (sound : ledger.Sound) (instant : ℝ)
    (held : ledger.LimitHeld (fun row => row.bucket = .publicLive ∧
      instant - 86400 < (row.created : ℝ) ∧ (row.created : ℝ) ≤ instant) Broker.rollingMicro) :
    after.LimitHeld (fun row => row.bucket = .publicLive ∧
      instant - 86400 < (row.created : ℝ) ∧ (row.created : ℝ) ≤ instant) Broker.rollingMicro := by
  refine step.limitHeld sound (static_window instant) ?_ held
  intro row checked _ inside
  have counted : sumWhere Charge.charged (fun other => other.bucket = .publicLive ∧
        instant - 86400 < (other.created : ℝ) ∧ (other.created : ℝ) ≤ instant)
        ledger.charges.rows ≤ ledger.publicAfter (row.created - 86400) := by
    apply sumWhere_mono _ _ _ sound.nonneg
    rintro other _ ⟨bucket, later, _⟩
    refine ⟨bucket, ?_⟩
    have start : (row.created : ℝ) - 86400 < (other.created : ℝ) := by linarith [inside.2.2]
    exact_mod_cast start
  have rolling := checked.rolling inside.1
  rw [Broker.rollingMicro]
  omega

/-! ## Days and months -/

theorem static_day (day : ℤ) :
    Ledger.Static (fun row => row.bucket = .publicLive ∧ utcDay row.created = day) := by
  intro first second bucket created
  simp only [bucket, created]

theorem static_month (month : ℤ × ℕ) :
    Ledger.Static (fun row => row.bucket = .publicLive ∧
      Ledger.calendarMonth row.created = month) := by
  intro first second bucket created
  simp only [bucket, created]

/-- A public row is appended by a broker reservation that checked it against
the day and the month of its own clock reading. -/
theorem public_append {privateHash : PrivateValue → Digest} {db : Database}
    {operation : Operation} {row : Charge} (through : operation.reservesPublicInStore = false)
    (rows : (exec privateHash db operation).ledger.charges.rows = db.ledger.charges.rows ++ [row])
    (inPublic : row.bucket = .publicLive) :
    (∃ model microUsd runId ident,
      operation = .brokerReserve model microUsd runId ident row.created) ∧
    ∃ day month, Broker.boundaries row.created = .ok (day, month) ∧
      Broker.publicFrom db.ledger day + row.charged ≤ Broker.dayMicro ∧
      Broker.publicFrom db.ledger month + row.charged ≤ Broker.monthMicro := by
  have longer := congrArg List.length rows
  rw [List.length_append, List.length_singleton] at longer
  unfold exec at rows longer
  cases outcome : attempt privateHash db operation with
  | error raised =>
      simp only [outcome] at longer
      omega
  | ok after =>
      simp only [outcome] at rows longer
      by_cases onQueue : operation.OnQueue = true
      · rw [attempt_onQueue onQueue outcome] at longer
        omega
      · cases operation with
        | storeReserve bucket model microUsd runId ident now =>
            rcases attempt_storeReserve_ok outcome with ⟨ledger, committed, rfl⟩
            rcases Store.reserve_ok committed with ⟨_, _, _, _, _, _, _, _, inserted⟩
            have appended := (Store.insertCharge_ok inserted).1.symm.trans rows
            rw [List.append_cancel_left_eq, List.singleton_inj] at appended
            subst appended
            exact absurd inPublic (of_decide_eq_false through)
        | brokerReserve model microUsd runId ident now =>
            rcases Broker.reserve_ok outcome with
              ⟨job, figures, ledger, _, _, _, read, _, afford, _, _, inserted, rfl⟩
            have appended := (Store.insertCharge_ok inserted).1.symm.trans rows
            rw [List.append_cancel_left_eq, List.singleton_inj] at appended
            subst appended
            rcases Broker.limits_ok read with ⟨day, month, bounds, dayRead, monthRead, _⟩
            rw [Broker.reservationExhausted, dayRead, monthRead] at afford
            push Not at afford
            exact ⟨⟨model, microUsd, runId, ident, rfl⟩, day, month, bounds, afford.1, afford.2.1⟩
        | settle ident microUsd usage =>
            rcases attempt_settle_ok outcome with ⟨ledger, committed, rfl⟩
            rcases Store.settle_ok committed with ⟨held, _, _, _, _, rfl⟩
            simp only [Store.settled, Table.update_length] at longer
            omega
        | recordProviderAccess =>
            cases outcome
            simp [Store.recordProviderAccess] at longer
        | recover =>
            cases outcome
            rw [Broker.recover, Broker.recover_charges] at longer
            rw [Table.update_length] at longer
            omega
        | _ => exact absurd rfl onQueue

/-- The check of a row created on its own rounded day counts the whole of
that day and of its month. -/
theorem publicFrom_covers {ledger : Ledger} (sound : ledger.Sound) {row : Charge}
    {day month : ℚ} (bounds : Broker.boundaries row.created = .ok (day, month))
    (own : roundedDay row.created = utcDay row.created) :
    ledger.dayPublic (utcDay row.created) ≤ Broker.publicFrom ledger day ∧
      ledger.monthPublic (Ledger.calendarMonth row.created) ≤ Broker.publicFrom ledger month := by
  rcases Broker.boundaries_ok bounds with ⟨rfl, rfl⟩
  constructor
  · apply sumWhere_mono _ _ _ sound.nonneg
    rintro other _ ⟨bucket, same⟩
    refine ⟨bucket, ?_⟩
    rw [own]
    exact (utcDay_le_iff _ _).mp (le_of_eq same.symm)
  · apply sumWhere_mono _ _ _ sound.nonneg
    rintro other _ ⟨bucket, same⟩
    refine ⟨bucket, ?_⟩
    rw [own]
    apply (utcDay_le_iff _ _).mp
    have first := monthStart_le (utcDay other.created + Broker.epochOrdinal)
    simp only [Ledger.calendarMonth, Prod.mk.injEq] at same
    rw [monthStart_eq_of_same_month same.1 same.2] at first
    omega

section Runs

variable (privateHash : PrivateValue → Digest)

/-- What a run keeps about days and months. -/
structure CalendarHeld (ledger : Ledger) : Prop where
  sound : ledger.Sound
  day : ∀ day, ledger.LimitHeld
    (fun row => row.bucket = .publicLive ∧ utcDay row.created = day) Broker.dayMicro
  month : ∀ month, ledger.LimitHeld
    (fun row => row.bucket = .publicLive ∧ Ledger.calendarMonth row.created = month)
    Broker.monthMicro

theorem exec_calendarHeld (db : Database) (operation : Operation)
    (through : operation.reservesPublicInStore = false)
    (own : operation.reservationRoundedUp = false)
    (held : CalendarHeld db.ledger) : CalendarHeld (exec privateHash db operation).ledger := by
  have step := exec_ledgerStep privateHash db operation
  refine ⟨step.sound held.sound, ?_, ?_⟩
  · intro day
    refine step.limitHeld held.sound (static_day day) ?_ (held.day day)
    rintro row _ rows ⟨inPublic, rfl⟩
    rcases public_append through rows inPublic with ⟨⟨_, _, _, _, rfl⟩, _, _, bounds, within, _⟩
    have counted := (publicFrom_covers held.sound bounds (by simpa using of_decide_eq_false own)).1
    rw [Ledger.dayPublic] at counted
    omega
  · intro month
    refine step.limitHeld held.sound (static_month month) ?_ (held.month month)
    rintro row _ rows ⟨inPublic, rfl⟩
    rcases public_append through rows inPublic with ⟨⟨_, _, _, _, rfl⟩, _, _, bounds, _, within⟩
    have counted := (publicFrom_covers held.sound bounds (by simpa using of_decide_eq_false own)).2
    rw [Ledger.monthPublic] at counted
    omega

theorem run_windowPublic {start : Database} (empty : start.ledger.charges.rows = [])
    (operations : List Operation)
    (enabled : (run (exec privateHash) start operations).ledger.providerDisabled = none)
    (instant : ℝ) :
    (run (exec privateHash) start operations).ledger.windowPublic instant ≤ Broker.rollingMicro := by
  have held := run_limitHeld privateHash empty
    (fun row => row.bucket = .publicLive ∧ instant - 86400 < (row.created : ℝ) ∧
      (row.created : ℝ) ≤ instant) (show 0 ≤ Broker.rollingMicro by decide)
    (fun step sound => step.window_limit sound instant) operations
  exact held.resolve_left (not_not.mpr enabled)

theorem run_calendarHeld {start : Database} (empty : start.ledger.charges.rows = [])
    {operations : List Operation}
    (meets : ∀ operation ∈ operations, operation.reservesPublicInStore = false ∧
      operation.reservationRoundedUp = false) :
    CalendarHeld (run (exec privateHash) start operations).ledger := by
  have initial : CalendarHeld start.ledger :=
    ⟨sound_of_empty empty, fun _ => limitHeld_of_empty empty _ (by decide),
      fun _ => limitHeld_of_empty empty _ (by decide)⟩
  clear empty
  induction operations generalizing start with
  | nil => exact initial
  | cons operation operations ih =>
      have first := meets operation List.mem_cons_self
      exact ih (fun other member => meets other (List.mem_cons_of_mem _ member))
        (exec_calendarHeld privateHash start operation first.1 first.2 initial)

/-- The public windows, from an empty ledger and with arbitrary clock
readings.  While inference is enabled no real interval of 86,400 seconds holds
more than the rolling limit, whoever reserves.  When public reservations go
through the broker and none of their readings is rounded up into the next UTC
day, no day and no calendar month exceeds its limit either. -/
theorem public_windows {start : Database} (empty : start.ledger.charges.rows = [])
    (operations : List Operation)
    (enabled : (run (exec privateHash) start operations).ledger.providerDisabled = none) :
    (∀ instant : ℝ,
      (run (exec privateHash) start operations).ledger.windowPublic instant ≤ 1000000) ∧
    ((∀ operation ∈ operations, operation.reservesPublicInStore = false ∧
      operation.reservationRoundedUp = false) →
      (∀ day, (run (exec privateHash) start operations).ledger.dayPublic day ≤ 50000) ∧
      ∀ month, (run (exec privateHash) start operations).ledger.monthPublic month ≤ 1000000) := by
  refine ⟨fun instant => run_windowPublic privateHash empty operations enabled instant, ?_⟩
  intro meets
  have held := run_calendarHeld privateHash empty meets
  exact ⟨fun day => (held.day day).resolve_left (not_not.mpr enabled),
    fun month => (held.month month).resolve_left (not_not.mpr enabled)⟩

end Runs

/-! ## A reading just before midnight

Ten trials spend the allowance of 2024-12-31.  The eleventh, admitted earlier,
reserves at the last float before midnight and is checked against 2025-01-01.
-/

/-- A stand-in for the keyed hash that separates the values used below. -/
def sampleHash : PrivateValue → Digest
  | .client address => 3 * address.toList.foldl (fun code letter => 256 * code + letter.toNat) 0
  | .csrf token => 3 * token.toList.foldl (fun code letter => 256 * code + letter.toNat) 0 + 1
  | .session sid => 3 * sid + 2

def sampleClient (trial : ℕ) : String := "198.51.100." ++ toString trial

/-- A client opens a session and its trial is admitted. -/
def openTrial (trial : ℕ) (now : ℚ) : List Operation :=
  [.startSession (sampleClient trial) trial "csrf" now,
    .admitJob (Broker.issuedToken sampleHash trial) (sampleClient trial) (some "csrf") Broker.taskId
      Broker.policy trial now now]

/-- The worker claims a trial, reserves its one request and finishes it. -/
def requestTrial (trial : ℕ) (claimed reserved : ℚ) : List Operation :=
  [.claim claimed, .brokerReserve Broker.liveModel 5000 (.recruiterLive trial) trial reserved,
    .finish trial .completed]

def eveningTrials : List Operation :=
  ((List.range 9).flatMap fun trial =>
    openTrial trial (1735686000 + 60 * trial) ++
      requestTrial trial (1735686001 + 60 * trial) (1735686002 + 60 * trial)) ++
  openTrial 9 1735689500 ++ openTrial 10 1735689500 ++
  requestTrial 9 1735689501 1735689502 ++
  requestTrial 10 1735689503 (1735689600 - 1 / 4194304)

theorem eveningTrials_exceed_day :
    (∀ operation ∈ eveningTrials, operation.reservesPublicInStore = false) ∧
    (run (exec sampleHash) Database.empty eveningTrials).ledger.providerDisabled = none ∧
    50000 < (run (exec sampleHash) Database.empty eveningTrials).ledger.dayPublic 20088 := by
  decide +kernel

/-- The first ten trials alone meet the conditions and spend the whole day. -/
theorem public_windows_eveningTrials :
    (run (exec sampleHash) Database.empty (eveningTrials.take 52)).ledger.dayPublic 20088 ≤ 50000 :=
  ((public_windows sampleHash rfl (eveningTrials.take 52) (by decide +kernel)).2
    (by decide +kernel)).1 20088

end ForgeRL
