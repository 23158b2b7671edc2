import ForgeRL.Ledger.Operations

namespace ForgeRL

open Library

/-!
# Safety of the shared ledger

A reservation is charged in full before the request is sent, so the sum of
charges already contains every request in flight.  The sum can then only fall
while inference is enabled: a settlement that would raise it pauses inference
in the same transaction.  The invariant behind this is that a reserved row is
charged its whole reservation.

A limit on any set of rows that is fixed by bucket and creation time is kept
by the same argument.  It is stated once, for an arbitrary such set, and the
lifetime caps are two of its instances.
-/

namespace Ledger

/-- The rows that a settlement or a recovery cannot move in or out. -/
def Static (condition : Charge → Prop) : Prop :=
  ∀ first second : Charge, first.bucket = second.bucket → first.created = second.created →
    (condition first ↔ condition second)

structure Sound (ledger : Ledger) : Prop where
  nonneg : ∀ row ∈ ledger.charges.rows, 0 ≤ row.charged
  whole : ∀ row ∈ ledger.charges.rows, row.status = .reserved → row.charged = row.reserved

/-- The charges of some rows stay within a limit while inference is enabled. -/
def LimitHeld (ledger : Ledger) (condition : Charge → Prop) [DecidablePred condition]
    (limit : ℤ) : Prop :=
  ledger.providerDisabled ≠ none ∨ sumWhere Charge.charged condition ledger.charges.rows ≤ limit

end Ledger

theorem settledAmount_nonneg {row : Charge} {microUsd : Option ℤ} (reserved : 0 ≤ row.reserved) :
    0 ≤ Store.settledAmount row microUsd := by
  cases microUsd with
  | none => exact reserved
  | some amount => exact le_max_left 0 amount

theorem markUncertain_rows (ledger : Ledger) (jobs : List Uuid) {row : Charge}
    (stored : row ∈ (markUncertain ledger jobs).charges.rows) :
    ∃ old ∈ ledger.charges.rows, row = old ∨
      (old.status = .reserved ∧ row = { old with status := .uncertain }) := by
  rcases List.mem_map.mp stored with ⟨old, member, same⟩
  refine ⟨old, member, ?_⟩
  split at same
  · next held => exact Or.inr ⟨held.1, same.symm⟩
  · exact Or.inl same.symm

theorem settled_rows {ledger : Ledger} {held : Charge} {microUsd : Option ℤ}
    {usage : Option TokenUsage} {row : Charge} (member : held ∈ ledger.charges.rows)
    (stored : row ∈ (Store.settled ledger held microUsd usage).charges.rows) :
    (row ∈ ledger.charges.rows ∧ row.id ≠ held.id) ∨ row = Store.settleRow microUsd usage held := by
  rcases List.mem_map.mp stored with ⟨old, oldMember, same⟩
  split at same
  · next own =>
      rw [ledger.charges.eq_of_key_eq oldMember member own] at same
      exact Or.inr same.symm
  · next other =>
      subst same
      exact Or.inl ⟨oldMember, other⟩

/-- Nonnegative charges and fully charged reservations survive every
transaction. -/
theorem LedgerStep.sound {settles : Charge → Option ℤ → Prop} {ledger after : Ledger}
    (step : LedgerStep settles ledger after)
    (sound : ledger.Sound) : after.Sound := by
  cases step with
  | idle => exact sound
  | paused => exact ⟨sound.nonneg, sound.whole⟩
  | reserved row checked inserted =>
      rcases Store.insertCharge_ok inserted with ⟨rows, _, _⟩
      constructor
      · intro other stored
        rw [rows, List.mem_append, List.mem_singleton] at stored
        rcases stored with stored | rfl
        · exact sound.nonneg other stored
        · exact le_of_lt checked.positive
      · intro other stored
        rw [rows, List.mem_append, List.mem_singleton] at stored
        rcases stored with stored | rfl
        · exact sound.whole other stored
        · exact fun _ => checked.whole
  | settled held microUsd usage member reserved _ =>
      have amount : 0 ≤ held.reserved :=
        sound.whole held member reserved ▸ sound.nonneg held member
      constructor
      · intro row stored
        rcases settled_rows member stored with ⟨old, _⟩ | rfl
        · exact sound.nonneg row old
        · exact settledAmount_nonneg amount
      · intro row stored status
        rcases settled_rows member stored with ⟨old, _⟩ | rfl
        · exact sound.whole row old status
        · cases microUsd <;> cases status
  | recovered jobs =>
      constructor
      · intro row stored
        rcases markUncertain_rows _ _ stored with ⟨old, member, rfl | ⟨_, rfl⟩⟩
        · exact sound.nonneg row member
        · exact sound.nonneg old member
      · intro row stored status
        rcases markUncertain_rows _ _ stored with ⟨old, member, rfl | ⟨_, rfl⟩⟩
        · exact sound.whole row member status
        · cases status

/-- No transaction lifts the pause. -/
theorem LedgerStep.paused_stays {settles : Charge → Option ℤ → Prop} {ledger after : Ledger}
    (step : LedgerStep settles ledger after)
    (paused : ledger.providerDisabled ≠ none) : after.providerDisabled ≠ none := by
  cases step with
  | idle => exact paused
  | reserved row checked _ => exact absurd checked.enabled paused
  | settled held microUsd usage _ _ _ =>
      simp only [Store.settled]
      split
      · exact Option.some_ne_none _
      · exact paused
  | paused => exact Option.some_ne_none _
  | recovered => exact paused

/-- While inference stays enabled, a settlement lowers every sum over a
static set of rows. -/
theorem settled_sum_le {ledger : Ledger} (sound : ledger.Sound) {condition : Charge → Prop}
    [DecidablePred condition] (static : Ledger.Static condition) {held : Charge}
    {microUsd : Option ℤ} {usage : Option TokenUsage} (member : held ∈ ledger.charges.rows)
    (reserved : held.status = .reserved)
    (enabled : (Store.settled ledger held microUsd usage).providerDisabled = none) :
    sumWhere Charge.charged condition (Store.settled ledger held microUsd usage).charges.rows ≤
      sumWhere Charge.charged condition ledger.charges.rows := by
  have amount : Store.settledAmount held microUsd ≤ held.reserved := by
    by_contra exceeded
    rw [not_le] at exceeded
    simp [Store.settled, exceeded] at enabled
  apply sumWhere_map_le
  intro row stored
  by_cases own : row.id = held.id
  · rcases ledger.charges.eq_of_key_eq stored member own with rfl
    have charged : row.charged = row.reserved := sound.whole row stored reserved
    have lower : (Store.settleRow microUsd usage row).charged ≤ row.charged := by
      rw [charged]
      exact amount
    rw [if_pos rfl]
    simp only [static (Store.settleRow microUsd usage row) row rfl rfl]
    split
    · exact lower
    · exact le_refl 0
  · rw [if_neg own]

theorem markUncertain_sum_eq (ledger : Ledger) (jobs : List Uuid) {condition : Charge → Prop}
    [DecidablePred condition] (static : Ledger.Static condition) :
    sumWhere Charge.charged condition (markUncertain ledger jobs).charges.rows =
      sumWhere Charge.charged condition ledger.charges.rows := by
  apply sumWhere_map_eq
  intro row _
  split
  · simp only [static { row with status := ChargeStatus.uncertain } row rfl rfl]
  · rfl

/-- A limit on a static set of rows survives every transaction whose own
reservation respects it. -/
theorem LedgerStep.limitHeld {settles : Charge → Option ℤ → Prop} {ledger after : Ledger}
    (step : LedgerStep settles ledger after)
    (sound : ledger.Sound) {condition : Charge → Prop} [DecidablePred condition]
    (static : Ledger.Static condition) {limit : ℤ}
    (guarded : ∀ row, Reservable ledger row →
      after.charges.rows = ledger.charges.rows ++ [row] → condition row →
      sumWhere Charge.charged condition ledger.charges.rows + row.charged ≤ limit)
    (held : ledger.LimitHeld condition limit) : after.LimitHeld condition limit := by
  rcases held with paused | within
  · exact Or.inl (step.paused_stays paused)
  · cases step with
    | idle => exact Or.inr within
    | paused => exact Or.inr within
    | reserved row checked inserted =>
        rcases Store.insertCharge_ok inserted with ⟨rows, _, _⟩
        right
        rw [rows, sumWhere_append, sumWhere_singleton]
        by_cases inside : condition row
        · rw [if_pos inside]
          exact guarded row checked rows inside
        · rw [if_neg inside, add_zero]
          exact within
    | settled row microUsd usage member reserved _ =>
        by_cases enabled : (Store.settled ledger row microUsd usage).providerDisabled = none
        · exact Or.inr ((settled_sum_le sound static member reserved enabled).trans within)
        · exact Or.inl enabled
    | recovered jobs =>
        right
        rw [markUncertain_sum_eq ledger jobs static]
        exact within

/-! ## The lifetime caps -/

theorem static_all : Ledger.Static (fun _ => True) := fun _ _ _ _ => Iff.rfl

theorem static_bucket (bucket : Bucket) : Ledger.Static (fun row => row.bucket = bucket) := by
  intro first second same _
  simp only [same]

/-- The total and every bucket stay within `TOTAL_CAP` and `CAPS`. -/
def Ledger.WithinCaps (ledger : Ledger) : Prop :=
  ledger.total ≤ Store.totalCap ∧
    ∀ bucket cap, Store.caps bucket = some cap → ledger.bucketTotal bucket ≤ cap

theorem LedgerStep.total_limit {settles : Charge → Option ℤ → Prop} {ledger after : Ledger}
    (step : LedgerStep settles ledger after)
    (sound : ledger.Sound) (held : ledger.LimitHeld (fun _ => True) Store.totalCap) :
    after.LimitHeld (fun _ => True) Store.totalCap :=
  step.limitHeld sound static_all (fun _ checked _ _ => checked.total) held

theorem LedgerStep.bucket_limit {settles : Charge → Option ℤ → Prop} {ledger after : Ledger}
    (step : LedgerStep settles ledger after)
    (sound : ledger.Sound) {bucket : Bucket} {cap : ℤ} (known : Store.caps bucket = some cap)
    (held : ledger.LimitHeld (fun row => row.bucket = bucket) cap) :
    after.LimitHeld (fun row => row.bucket = bucket) cap := by
  refine step.limitHeld sound (static_bucket bucket) ?_ held
  intro row checked _ inside
  rcases checked.bucket with ⟨rowCap, rowKnown, room⟩
  rw [inside, known] at rowKnown
  cases rowKnown
  rw [Ledger.bucketTotal, inside] at room
  exact room

/-! ## Runs -/

section Runs

variable (privateHash : PrivateValue → Digest)

theorem sound_of_empty {ledger : Ledger} (empty : ledger.charges.rows = []) : ledger.Sound := by
  constructor <;> intro row stored <;> rw [empty] at stored <;> cases stored

theorem limitHeld_of_empty {ledger : Ledger} (empty : ledger.charges.rows = [])
    (condition : Charge → Prop) [DecidablePred condition] {limit : ℤ} (room : 0 ≤ limit) :
    ledger.LimitHeld condition limit := by
  right
  rw [empty]
  exact room

/-- A static limit that every step respects holds along every run from an
empty ledger. -/
theorem run_limitHeld {start : Database} (empty : start.ledger.charges.rows = [])
    (condition : Charge → Prop) [DecidablePred condition] {limit : ℤ} (room : 0 ≤ limit)
    (respected : ∀ {settles ledger after}, LedgerStep settles ledger after → ledger.Sound →
      ledger.LimitHeld condition limit → after.LimitHeld condition limit)
    (operations : List Operation) :
    (run (exec privateHash) start operations).ledger.LimitHeld condition limit := by
  have both := run_invariant (exec privateHash)
    (fun db => db.ledger.Sound ∧ db.ledger.LimitHeld condition limit)
    (fun db operation held =>
      have step := exec_ledgerStep privateHash db operation
      ⟨step.sound held.1, respected step held.1 held.2⟩)
    ⟨sound_of_empty empty, limitHeld_of_empty empty condition room⟩ operations
  exact both.2

theorem run_withinCaps {start : Database} (empty : start.ledger.charges.rows = [])
    (operations : List Operation) :
    (run (exec privateHash) start operations).ledger.providerDisabled ≠ none ∨
      (run (exec privateHash) start operations).ledger.WithinCaps := by
  set reached := run (exec privateHash) start operations with hReached
  by_cases paused : reached.ledger.providerDisabled = none
  · right
    constructor
    · have held := run_limitHeld privateHash empty (fun _ => True)
        (show 0 ≤ Store.totalCap by decide) LedgerStep.total_limit operations
      exact held.resolve_left (not_not.mpr paused)
    · intro bucket cap known
      have room : 0 ≤ cap := by
        cases bucket <;> cases known <;> decide
      have held := run_limitHeld privateHash empty (fun row => row.bucket = bucket)
        room (fun step sound => step.bucket_limit sound known) operations
      exact held.resolve_left (not_not.mpr paused)
  · exact Or.inl paused

end Runs

/-! ## The life of a row -/

/-- Once inference is paused, no later step stores a new key. -/
theorem LedgerStep.paused_keys {settles : Charge → Option ℤ → Prop} {ledger after : Ledger}
    (step : LedgerStep settles ledger after)
    (paused : ledger.providerDisabled ≠ none) :
    after.charges.rows.map Charge.id = ledger.charges.rows.map Charge.id := by
  cases step with
  | idle => rfl
  | reserved row checked _ => exact absurd checked.enabled paused
  | settled held microUsd usage _ _ _ =>
      exact Table.update_keys ledger.charges _ (Store.settleRow microUsd usage)
        (Store.settleRow_id microUsd usage)
  | paused => rfl
  | recovered jobs =>
      exact Table.update_keys ledger.charges _
        (fun row => { row with status := .uncertain }) (fun _ => rfl)

/-- A row that has left the status `reserved` is never written again. -/
theorem LedgerStep.closed_stays {settles : Charge → Option ℤ → Prop} {ledger after : Ledger}
    (step : LedgerStep settles ledger after)
    {row : Charge} (stored : row ∈ ledger.charges.rows) (closed : row.status ≠ .reserved) :
    row ∈ after.charges.rows := by
  cases step with
  | idle => exact stored
  | paused => exact stored
  | reserved _ _ inserted =>
      rw [(Store.insertCharge_ok inserted).1]
      exact List.mem_append_left _ stored
  | settled held microUsd usage member reserved _ =>
      refine List.mem_map.mpr ⟨row, stored, if_neg ?_⟩
      intro own
      rw [ledger.charges.eq_of_key_eq stored member own] at closed
      exact closed reserved
  | recovered jobs =>
      exact List.mem_map.mpr ⟨row, stored, if_neg (fun held => closed held.1)⟩

section Runs

variable (privateHash : PrivateValue → Digest)

theorem run_paused {start : Database} (paused : start.ledger.providerDisabled ≠ none)
    (operations : List Operation) :
    (run (exec privateHash) start operations).ledger.providerDisabled ≠ none ∧
      (run (exec privateHash) start operations).ledger.charges.rows.map Charge.id =
        start.ledger.charges.rows.map Charge.id := by
  have kept := run_invariant (exec privateHash)
    (fun db => db.ledger.providerDisabled ≠ none ∧
      db.ledger.charges.rows.map Charge.id = start.ledger.charges.rows.map Charge.id)
    (fun db operation held =>
      have step := exec_ledgerStep privateHash db operation
      ⟨step.paused_stays held.1, (step.paused_keys held.1).trans held.2⟩)
    ⟨paused, rfl⟩ operations
  exact kept

theorem run_closed {start : Database} {row : Charge} (stored : row ∈ start.ledger.charges.rows)
    (closed : row.status ≠ .reserved) (operations : List Operation) :
    row ∈ (run (exec privateHash) start operations).ledger.charges.rows :=
  run_invariant (exec privateHash) (fun db => row ∈ db.ledger.charges.rows)
    (fun db operation held => (exec_ledgerStep privateHash db operation).closed_stays held closed)
    stored operations

/-- Ledger safety, for every interleaving of the transactions above from an
empty ledger: the caps hold until inference is paused; the pause is final and
closes the ledger to new rows; a row that has left `reserved` keeps its charge
and its status; a settlement of any other row raises and writes nothing. -/
theorem ledger_safety {start : Database} (empty : start.ledger.charges.rows = [])
    (operations : List Operation) :
    let reached := run (exec privateHash) start operations
    (reached.ledger.providerDisabled ≠ none ∨ reached.ledger.WithinCaps) ∧
    (reached.ledger.providerDisabled ≠ none → ∀ later,
      (run (exec privateHash) reached later).ledger.providerDisabled ≠ none ∧
        (run (exec privateHash) reached later).ledger.charges.rows.map Charge.id =
          reached.ledger.charges.rows.map Charge.id) ∧
    (∀ row ∈ reached.ledger.charges.rows, row.status ≠ .reserved → ∀ later,
      ∀ other ∈ (run (exec privateHash) reached later).ledger.charges.rows,
        other.id = row.id → other = row) ∧
    (∀ ident microUsd usage,
      (∀ row ∈ reached.ledger.charges.rows, row.id = ident → row.status ≠ .reserved) →
      attempt privateHash reached (.settle ident microUsd usage) =
          .error (.valueError "Unknown or already settled reservation") ∧
        exec privateHash reached (.settle ident microUsd usage) = reached) := by
  intro reached
  refine ⟨run_withinCaps privateHash empty operations,
    fun paused later => run_paused privateHash paused later, ?_, ?_⟩
  · intro row stored closed later other otherStored same
    have kept := run_closed privateHash stored closed later
    exact Table.eq_of_key_eq _ otherStored kept same
  · intro ident microUsd usage missing
    have raised : attempt privateHash reached (.settle ident microUsd usage) =
        .error (.valueError "Unknown or already settled reservation") := by
      simp only [attempt, Store.settle_of_not_reserved _ _ _ _ missing]
    exact ⟨raised, by simp only [exec, raised]⟩

end Runs

/-- A request is settled for less than its reservation, a live trial reserves its
request before the broker restarts, and another request is settled for more. -/
def restartedTrial : List Operation :=
  [.storeReserve .research "m" 500 none 1 0, .settle 1 (some 300) none,
    .startSession "client" 0 "csrf" 1000,
    .admitJob (Broker.issuedToken (fun _ => 0) 0) "client" (some "csrf") Broker.taskId
      Broker.policy 2 1000 1000,
    .claim 1001, .brokerReserve Broker.liveModel 5000 (.recruiterLive 2) 3 1002, .recover,
    .storeReserve .research "m" 400 none 4 1003, .settle 4 (some 450) none]

/-- Before the last settlement the caps hold; after it inference is paused, and
all three rows stay as they are. -/
theorem ledger_safety_restarted :
    let reached := run (exec fun _ => 0) Database.empty restartedTrial
    (run (exec fun _ => 0) Database.empty (restartedTrial.take 8)).ledger.WithinCaps ∧
    (reached.ledger.charges.rows.map fun row => (row.id, row.status, row.charged)) =
      [(1, .estimated, 300), (3, .uncertain, 5000), (4, .estimated, 450)] ∧
    (∀ later, (run (exec fun _ => 0) reached later).ledger.charges.rows.map Charge.id =
      [1, 3, 4]) ∧
    (∀ row ∈ reached.ledger.charges.rows, ∀ later,
      ∀ other ∈ (run (exec fun _ => 0) reached later).ledger.charges.rows,
        other.id = row.id → other = row) ∧
    ∀ microUsd usage, exec (fun _ => 0) reached (.settle 3 microUsd usage) = reached := by
  intro reached
  have empty : Database.empty.ledger.charges.rows = [] := rfl
  have closed : ∀ row ∈ reached.ledger.charges.rows, row.status ≠ .reserved := by decide +kernel
  rcases ledger_safety (fun _ => 0) empty restartedTrial with ⟨_, paused, kept, refused⟩
  refine ⟨?_, by decide +kernel, ?_, ?_, ?_⟩
  · exact (ledger_safety (fun _ => 0) empty (restartedTrial.take 8)).1.resolve_left
      (by decide +kernel)
  · intro later
    have keys : reached.ledger.charges.rows.map Charge.id = [1, 3, 4] := by decide +kernel
    exact (paused (by decide +kernel) later).2.trans keys
  · exact fun row stored => kept row stored (closed row stored)
  · exact fun microUsd usage =>
      (refused 3 microUsd usage fun row stored _ => closed row stored).2

end ForgeRL
