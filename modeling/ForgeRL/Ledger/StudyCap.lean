import ForgeRL.Ledger.Safety

namespace ForgeRL

open Library

/-!
# The cap of one study on a shared ledger

`CappedProvider` measures what its study has spent as the growth of the whole
ledger since the study began, and refuses a request whose reservation would
not fit.  The measurement, the comparison, the reservation and the settlement
are separate transactions, and the other clients of the ledger act between
any two of them.

The growth of the ledger is the study's own charge plus what the others have
added.  It covers the study's own charge as long as the others have not taken
back more than they added; a reservation of theirs that was open when the
study began and is settled for less makes the measurement too low.
-/

/-- `CappedProvider` without the provider that it wraps. -/
structure CappedProvider where
  cap_usd : ℚ
  /-- `start_budget["total_charged_usd"]` -/
  start_total_charged_usd : ℚ
deriving DecidableEq, Repr

namespace CappedProvider

/-- `CappedProvider.__init__` -/
def init (ledger : Ledger) (cap_usd : ℚ) : Except StoreError CappedProvider :=
  let start_budget := Store.researchBudget ledger
  if start_budget.disabled ∨ Store.usd start_budget.remaining < 1 / 1000 then
    .error (.budgetExceeded "Research ledger has no usable allowance")
  else .ok {
    cap_usd := min cap_usd (Store.usd start_budget.remaining)
    start_total_charged_usd := Store.usd start_budget.totalCharged }

def spent (provider : CappedProvider) (ledger : Ledger) : ℚ :=
  max 0 (Store.usd (Store.researchBudget ledger).totalCharged - provider.start_total_charged_usd)

/-- `CappedProvider.remaining`, for a value of `spent` that was read before. -/
def remaining (provider : CappedProvider) (spent : ℚ) (ledger : Ledger) : ℚ :=
  max 0 (min (provider.cap_usd - spent) (Store.usd (Store.researchBudget ledger).remaining))

/-- The tolerance of the comparison in `CappedProvider.generate`. -/
def tolerance : ℚ := 1 / 1000000000

/-- The preflight lets a reservation pass. -/
def Clears (provider : CappedProvider) (spent : ℚ) (ledger : Ledger) (microUsd : ℤ) : Prop :=
  Store.usd microUsd ≤ provider.remaining spent ledger + tolerance

instance (provider : CappedProvider) (spent : ℚ) (ledger : Ledger) (microUsd : ℤ) :
    Decidable (provider.Clears spent ledger microUsd) :=
  inferInstanceAs (Decidable (_ ≤ _))

end CappedProvider

/-- How far the current `generate` call has come. -/
inductive StudyPhase where
  | idle
  /-- `spent()` has returned, for a request that reserves the amount. -/
  | measured (microUsd : ℤ) (spent : ℚ)
  /-- The preflight has passed. -/
  | cleared (microUsd : ℤ)
  | inFlight (ident : Uuid)
deriving DecidableEq, Repr

structure Study where
  db : Database
  /-- The identifiers of the study's own reservations. -/
  own : List Uuid
  phase : StudyPhase

inductive StudyInput where
  /-- A transaction of another client. -/
  | other (operation : Operation)
  /-- `generate` begins: the reservation is estimated and `spent()` reads the ledger. -/
  | measure (microUsd : ℤ)
  /-- `remaining()` reads the ledger again, and the preflight compares. -/
  | compare
  | reserve (model : String) (runId : Option RunId) (ident : Uuid) (now : ℚ)
  | settle (microUsd : Option ℤ) (usage : Option TokenUsage)
deriving DecidableEq, Repr

namespace Study

def init (db : Database) : Study := ⟨db, [], .idle⟩

/-- One transaction of the study or of another client.  A settlement that
raises is followed by the settlement of the whole reservation; when that one
raises too, the call is over. -/
def step (provider : CappedProvider) (privateHash : PrivateValue → Digest) (study : Study) :
    StudyInput → Study
  | .other operation => { study with db := exec privateHash study.db operation }
  | .measure microUsd =>
    match study.phase with
    | .idle => { study with phase := .measured microUsd (provider.spent study.db.ledger) }
    | _ => study
  | .compare =>
    match study.phase with
    | .measured microUsd spent =>
      if provider.Clears spent study.db.ledger microUsd then
        { study with phase := .cleared microUsd }
      else { study with phase := .idle }
    | _ => study
  | .reserve model runId ident now =>
    match study.phase with
    | .cleared microUsd =>
      match Store.reserve study.db.ledger .research model microUsd runId ident now with
      | .error _ => { study with phase := .idle }
      | .ok ledger =>
        { db := { study.db with ledger := ledger }
          own := study.own ++ [ident]
          phase := .inFlight ident }
    | _ => study
  | .settle microUsd usage =>
    match study.phase with
    | .inFlight ident =>
      match Store.settle study.db.ledger ident microUsd usage with
      | .error _ => if microUsd = none then { study with phase := .idle } else study
      | .ok ledger => { study with db := { study.db with ledger := ledger }, phase := .idle }
    | _ => study

/-- What the study's own requests are charged. -/
def charged (study : Study) : ℤ :=
  sumWhere Charge.charged (fun row => row.id ∈ study.own) study.db.ledger.charges.rows

/-- What all other requests are charged. -/
def chargedElsewhere (study : Study) : ℤ :=
  sumWhere Charge.charged (fun row => row.id ∉ study.own) study.db.ledger.charges.rows

theorem total_eq (study : Study) :
    study.db.ledger.total = study.charged + study.chargedElsewhere :=
  sumWhere_split Charge.charged (fun row => row.id ∈ study.own) study.db.ledger.charges.rows

/-! ## The conditions on a run -/

/-- No settlement exceeds the reservation that it settles. -/
def SettlesWithin (ledger : Ledger) (ident : Uuid) (microUsd : Option ℤ) : Prop :=
  ∀ row ∈ ledger.charges.rows, row.id = ident → Store.settledAmount row microUsd ≤ row.reserved

instance (ledger : Ledger) (ident : Uuid) (microUsd : Option ℤ) :
    Decidable (SettlesWithin ledger ident microUsd) :=
  inferInstanceAs (Decidable (∀ row ∈ ledger.charges.rows, _))

def Settlements (study : Study) : StudyInput → Prop
  | .other (.settle ident microUsd _) => SettlesWithin study.db.ledger ident microUsd
  | .settle microUsd _ =>
    match study.phase with
    | .inFlight ident => SettlesWithin study.db.ledger ident microUsd
    | _ => True
  | _ => True

instance (study : Study) (input : StudyInput) : Decidable (Settlements study input) := by
  unfold Settlements
  split
  · infer_instance
  · split <;> infer_instance
  · infer_instance

/-- When `spent()` is read for a study that was charged something, the other
clients' charges are not below what the whole ledger held at the start. -/
def Covered (provider : CappedProvider) (study : Study) : StudyInput → Prop
  | .measure _ => study.phase = .idle → 0 < study.charged →
    provider.start_total_charged_usd ≤ Store.usd study.chargedElsewhere
  | _ => True

instance (provider : CappedProvider) (study : Study) (input : StudyInput) :
    Decidable (Covered provider study input) := by
  unfold Covered
  split <;> infer_instance

/-- No whole number of micro-USD lies within the tolerance above the cap. -/
def Resolved (cap_usd : ℚ) : Prop :=
  ∀ microUsd : ℤ, Store.usd microUsd ≤ cap_usd + CappedProvider.tolerance →
    Store.usd microUsd ≤ cap_usd

/-! ## The rows of the study under other clients' transactions -/

/-- The study's reservations are stored, and an open one is charged in full. -/
structure Tracks (own : List Uuid) (ledger : Ledger) : Prop where
  stored : ∀ ident ∈ own, ∃ row ∈ ledger.charges.rows, row.id = ident
  whole : ∀ row ∈ ledger.charges.rows, row.id ∈ own → row.status = .reserved →
    row.charged = row.reserved

end Study

section Rows

variable {settles : Charge → Option ℤ → Prop} {ledger after : Ledger} {own : List Uuid}

/-- No transaction removes a row. -/
theorem LedgerStep.keeps_row (step : LedgerStep settles ledger after) {row : Charge}
    (stored : row ∈ ledger.charges.rows) : ∃ other ∈ after.charges.rows, other.id = row.id := by
  cases step with
  | idle => exact ⟨row, stored, rfl⟩
  | paused => exact ⟨row, stored, rfl⟩
  | reserved _ _ inserted =>
      rw [(Store.insertCharge_ok inserted).1]
      exact ⟨row, List.mem_append_left _ stored, rfl⟩
  | settled held microUsd usage _ _ _ =>
      refine ⟨_, List.mem_map_of_mem stored, ?_⟩
      split <;> rfl
  | recovered jobs =>
      refine ⟨_, List.mem_map_of_mem stored, ?_⟩
      split <;> rfl

theorem LedgerStep.tracks (step : LedgerStep settles ledger after)
    (tracked : Study.Tracks own ledger) : Study.Tracks own after := by
  constructor
  · intro ident member
    rcases tracked.stored ident member with ⟨row, stored, rfl⟩
    exact step.keeps_row stored
  · intro row stored mine open_
    cases step with
    | idle => exact tracked.whole row stored mine open_
    | paused => exact tracked.whole row stored mine open_
    | reserved new checked inserted =>
        rw [(Store.insertCharge_ok inserted).1, List.mem_append, List.mem_singleton] at stored
        rcases stored with stored | rfl
        · exact tracked.whole row stored mine open_
        · exact checked.whole
    | settled held microUsd usage member _ _ =>
        rcases settled_rows member stored with ⟨old, _⟩ | rfl
        · exact tracked.whole row old mine open_
        · cases microUsd <;> cases open_
    | recovered jobs =>
        rcases markUncertain_rows _ _ stored with ⟨old, member, rfl | ⟨_, rfl⟩⟩
        · exact tracked.whole row member mine open_
        · cases open_

/-- No transaction of another client raises the study's own charge, and no
settlement within its reservation does. -/
theorem LedgerStep.own_le (step : LedgerStep settles ledger after)
    (tracked : Study.Tracks own ledger)
    (within : ∀ row ∈ ledger.charges.rows, ∀ microUsd, settles row microUsd →
      Store.settledAmount row microUsd ≤ row.reserved) :
    sumWhere Charge.charged (fun row => row.id ∈ own) after.charges.rows ≤
      sumWhere Charge.charged (fun row => row.id ∈ own) ledger.charges.rows := by
  cases step with
  | idle => exact le_refl _
  | paused => exact le_refl _
  | reserved new _ inserted =>
      rcases Store.insertCharge_ok inserted with ⟨rows, fresh, _⟩
      have foreign : new.id ∉ own := by
        intro mine
        rcases tracked.stored new.id mine with ⟨row, stored, same⟩
        exact fresh row stored same
      rw [rows, sumWhere_append, sumWhere_singleton, if_neg foreign, add_zero]
  | settled held microUsd usage member reserved asked =>
      apply sumWhere_map_le
      intro row stored
      by_cases own : row.id = held.id
      · rcases ledger.charges.eq_of_key_eq stored member own with rfl
        rw [if_pos rfl, Store.settleRow_id]
        split
        · next mine =>
            rw [tracked.whole row stored mine reserved]
            exact within row stored microUsd asked
        · exact le_refl 0
      · rw [if_neg own]
  | recovered jobs =>
      apply sumWhere_map_le
      intro row _
      split <;> exact le_refl _

end Rows

/-! ## The invariant -/

namespace Study

/-- What each phase has established about the study's own charge. -/
def PhaseHeld (provider : CappedProvider) (charged : ℤ) : StudyPhase → Prop
  | .measured _ spent => Store.usd charged ≤ spent
  | .cleared microUsd => Store.usd (charged + microUsd) ≤ provider.cap_usd
  | _ => True

theorem PhaseHeld.mono {provider : CappedProvider} {phase : StudyPhase} {charged less : ℤ}
    (held : PhaseHeld provider charged phase) (lower : less ≤ charged) :
    PhaseHeld provider less phase := by
  cases phase with
  | idle => trivial
  | inFlight ident => trivial
  | measured microUsd spent => exact (Store.usd_le_usd.mpr lower).trans held
  | cleared microUsd => exact (Store.usd_le_usd.mpr (Int.add_le_add_right lower _)).trans held

structure CapHeld (provider : CappedProvider) (study : Study) : Prop where
  tracks : Tracks study.own study.db.ledger
  within : Store.usd study.charged ≤ provider.cap_usd
  phase : PhaseHeld provider study.charged study.phase

section Step

variable {provider : CappedProvider} {privateHash : PrivateValue → Digest} {study : Study}

/-- A step that leaves the study's requests and does not raise their charge. -/
theorem CapHeld.of_ledgerStep {settles : Charge → Option ℤ → Prop} {db : Database}
    {phase : StudyPhase} (held : CapHeld provider study)
    (step : LedgerStep settles study.db.ledger db.ledger)
    (within : ∀ row ∈ study.db.ledger.charges.rows, ∀ microUsd, settles row microUsd →
      Store.settledAmount row microUsd ≤ row.reserved)
    (kept : ∀ charged, PhaseHeld provider charged study.phase → PhaseHeld provider charged phase) :
    CapHeld provider ⟨db, study.own, phase⟩ := by
  have lower : sumWhere Charge.charged (fun row => row.id ∈ study.own) db.ledger.charges.rows ≤
      study.charged := step.own_le held.tracks within
  exact {
    tracks := step.tracks held.tracks
    within := (Store.usd_le_usd.mpr lower).trans held.within
    phase := kept _ (held.phase.mono lower) }

theorem CapHeld.with_phase {phase : StudyPhase} (held : CapHeld provider study)
    (reached : PhaseHeld provider study.charged phase) :
    CapHeld provider { study with phase := phase } :=
  ⟨held.tracks, held.within, reached⟩

/-- A measurement that is covered does not fall below the study's charge. -/
theorem usd_charged_le_spent {microUsd : ℤ} (idle : study.phase = .idle)
    (covered : Covered provider study (.measure microUsd)) :
    Store.usd study.charged ≤ provider.spent study.db.ledger := by
  by_cases nothing : study.charged ≤ 0
  · refine le_trans ?_ (le_max_left _ _)
    rw [← show Store.usd 0 = 0 by norm_num [Store.usd]]
    exact Store.usd_le_usd.mpr nothing
  · refine le_trans ?_ (le_max_right _ _)
    have start := covered idle (not_le.mp nothing)
    rw [Store.researchBudget, total_eq, Store.usd_add]
    linarith

/-- A reservation that clears fits under the cap, up to the tolerance. -/
theorem usd_le_of_clears {spent : ℚ} {microUsd : ℤ} (positive : 0 < microUsd)
    (measured : Store.usd study.charged ≤ spent)
    (clears : provider.Clears spent study.db.ledger microUsd) :
    Store.usd (study.charged + microUsd) ≤ provider.cap_usd + CappedProvider.tolerance := by
  -- A clamped remainder clears nothing: one micro-USD is above the tolerance.
  have least : CappedProvider.tolerance < Store.usd microUsd := by
    have one : Store.usd 1 ≤ Store.usd microUsd := Store.usd_le_usd.mpr positive
    refine lt_of_lt_of_le ?_ one
    norm_num [CappedProvider.tolerance, Store.usd]
  have room : Store.usd microUsd ≤ provider.cap_usd - spent + CappedProvider.tolerance := by
    unfold CappedProvider.Clears CappedProvider.remaining at clears
    rcases max_choice 0 (min (provider.cap_usd - spent)
      (Store.usd (Store.researchBudget study.db.ledger).remaining)) with none_left | some_left
    · rw [none_left] at clears
      linarith
    · rw [some_left] at clears
      linarith [min_le_left (provider.cap_usd - spent)
        (Store.usd (Store.researchBudget study.db.ledger).remaining)]
  rw [Store.usd_add]
  linarith

theorem phaseHeld_of_clears (resolved : Resolved provider.cap_usd)
    (held : CapHeld provider study) {spent : ℚ} {microUsd : ℤ}
    (measured : study.phase = .measured microUsd spent)
    (clears : provider.Clears spent study.db.ledger microUsd) :
    PhaseHeld provider study.charged (.cleared microUsd) := by
  have reached := held.phase
  rw [measured] at reached
  by_cases positive : 0 < microUsd
  · exact resolved _ (usd_le_of_clears positive reached clears)
  · exact (Store.usd_le_usd.mpr (by omega)).trans held.within

/-- The study's own reservation was cleared before. -/
theorem capHeld_reserve (held : CapHeld provider study) {microUsd : ℤ}
    (cleared : study.phase = .cleared microUsd) {model : String} {runId : Option RunId}
    {ident : Uuid} {now : ℚ} {ledger : Ledger}
    (committed : Store.reserve study.db.ledger .research model microUsd runId ident now =
      .ok ledger) :
    CapHeld provider
      ⟨{ study.db with ledger := ledger }, study.own ++ [ident], .inFlight ident⟩ := by
  rcases Store.reserve_ok committed with ⟨_, _, _, _, _, _, _, _, inserted⟩
  rcases Store.insertCharge_ok inserted with ⟨rows, fresh, _⟩
  have known : ∀ row ∈ study.db.ledger.charges.rows,
      (row.id ∈ study.own ++ [ident] ↔ row.id ∈ study.own) := by
    intro row stored
    rw [List.mem_append, List.mem_singleton]
    exact ⟨fun member => member.resolve_right (fresh row stored), Or.inl⟩
  have charge : (Study.mk { study.db with ledger := ledger } (study.own ++ [ident])
      (.inFlight ident)).charged = study.charged + microUsd := by
    simp only [charged]
    rw [rows, sumWhere_append, sumWhere_singleton, if_pos (by simp [Store.reservedRow]),
      sumWhere_congr _ _ _ known]
    rfl
  have reached := held.phase
  rw [cleared] at reached
  refine ⟨⟨?_, ?_⟩, ?_, trivial⟩
  · intro own member
    rw [rows]
    rcases List.mem_append.mp member with earlier | new
    · rcases held.tracks.stored own earlier with ⟨row, stored, same⟩
      exact ⟨row, List.mem_append_left _ stored, same⟩
    · exact ⟨_, List.mem_append_right _ List.mem_cons_self, (List.mem_singleton.mp new).symm⟩
  · intro row stored mine
    rw [rows] at stored
    rcases List.mem_append.mp stored with earlier | new
    · exact held.tracks.whole row earlier ((known row earlier).mp mine)
    · rw [List.mem_singleton.mp new]
      exact fun _ => rfl
  · rw [charge]
    exact reached

theorem capHeld_settle (held : CapHeld provider study) {ident : Uuid}
    {microUsd : Option ℤ} {usage : Option TokenUsage}
    (within : SettlesWithin study.db.ledger ident microUsd) {ledger : Ledger}
    (committed : Store.settle study.db.ledger ident microUsd usage = .ok ledger) :
    CapHeld provider ⟨{ study.db with ledger := ledger }, study.own, .idle⟩ := by
  rcases Store.settle_ok committed with ⟨row, stored, own, reserved, _, rfl⟩
  have changed : LedgerStep (fun other amount => other.id = ident ∧ amount = microUsd)
      study.db.ledger (Store.settled study.db.ledger row microUsd usage) :=
    .settled row microUsd usage stored reserved ⟨own, rfl⟩
  refine held.of_ledgerStep changed ?_ (fun _ _ => trivial)
  rintro other member amount ⟨same, rfl⟩
  exact within other member same

/-- One transaction keeps the study under its cap. -/
theorem capHeld_step (resolved : Resolved provider.cap_usd) (held : CapHeld provider study)
    {input : StudyInput} (settlements : Settlements study input)
    (covered : Covered provider study input) :
    CapHeld provider (study.step provider privateHash input) := by
  cases input with
  | other operation =>
      refine held.of_ledgerStep (exec_ledgerStep privateHash study.db operation) ?_
        (fun _ reached => reached)
      rintro row stored microUsd ⟨usage, rfl⟩
      exact settlements row stored rfl
  | measure microUsd =>
      simp only [step]
      split
      · next idle => exact held.with_phase (usd_charged_le_spent idle covered)
      · exact held
  | compare =>
      simp only [step]
      split
      · next microUsd spent measured =>
          split
          · next clears =>
              exact held.with_phase (phaseHeld_of_clears resolved held measured clears)
          · exact held.with_phase trivial
      · exact held
  | reserve model runId ident now =>
      simp only [step]
      split
      · next microUsd cleared =>
          split
          · exact held.with_phase trivial
          · next ledger committed => exact capHeld_reserve held cleared committed
      · exact held
  | settle microUsd usage =>
      simp only [step]
      split
      · next ident inFlight =>
          simp only [Settlements, inFlight] at settlements
          split
          · split
            · exact held.with_phase trivial
            · exact held
          · next ledger committed => exact capHeld_settle held settlements committed
      · exact held

end Step

/-! ## Runs -/

theorem charged_init (db : Database) : (init db).charged = 0 := by
  simp [charged, init, sumWhere]

theorem init_ok {ledger : Ledger} {cap_usd : ℚ} {provider : CappedProvider}
    (built : CappedProvider.init ledger cap_usd = .ok provider) :
    provider.cap_usd = min cap_usd (Store.usd (Store.researchBudget ledger).remaining) := by
  unfold CappedProvider.init at built
  simp only at built
  split at built
  · cases built
  · cases built
    rfl

/-- The smaller of a resolved cap and a whole number of micro-USD is
resolved. -/
theorem Resolved.min {cap_usd : ℚ} (resolved : Resolved cap_usd) (remaining : ℤ) :
    Resolved (min cap_usd (Store.usd remaining)) := by
  intro microUsd near
  have nearRemaining : Store.usd microUsd ≤ Store.usd remaining + CappedProvider.tolerance :=
    near.trans (add_le_add_left (min_le_right _ _) _)
  have whole : microUsd ≤ remaining := by
    rw [Store.usd, Store.usd, CappedProvider.tolerance] at nearRemaining
    have below : (microUsd : ℚ) < (remaining + 1 : ℤ) := by
      push_cast
      linarith
    exact Int.lt_add_one_iff.mp (Int.cast_lt.mp below)
  refine le_min (resolved microUsd ?_) (Store.usd_le_usd.mpr whole)
  exact near.trans (add_le_add_left (min_le_left _ _) _)

/-- The cap of a study.  In every interleaving in which no settlement exceeds
its reservation, and in which the other clients' charges are never below the
total at the start when a study that was charged something measures its
spending, the study's requests are charged at most its cap. -/
theorem study_within_cap (privateHash : PrivateValue → Digest) (db : Database) {cap_usd : ℚ}
    {provider : CappedProvider} (nonneg : 0 ≤ cap_usd) (resolved : Resolved cap_usd)
    (built : CappedProvider.init db.ledger cap_usd = .ok provider) {inputs : List StudyInput}
    (meets : Admissible (step provider privateHash)
      (fun study input => Settlements study input ∧ Covered provider study input)
      (init db) inputs) :
    Store.usd (run (step provider privateHash) (init db) inputs).charged ≤ cap_usd := by
  have cap := init_ok built
  have start : CapHeld provider (init db) := by
    refine ⟨⟨fun _ none_ => absurd none_ List.not_mem_nil,
      fun _ _ none_ => absurd none_ List.not_mem_nil⟩, ?_, trivial⟩
    rw [charged_init, cap]
    refine le_min ?_ (Store.usd_le_usd.mpr (le_max_left _ _))
    simpa [Store.usd] using nonneg
  have held := run_invariant_of_admissible (step provider privateHash)
    (CapHeld provider)
    (fun study input allowed before => capHeld_step
      (cap ▸ resolved.min (Store.researchBudget db.ledger).remaining) before allowed.1 allowed.2)
    start meets
  exact held.within.trans (cap ▸ min_le_left _ _)

/-! ## A refund during the study

Another client has reserved 5,000 micro-USD before the study begins and
settles for nothing after the study's first request.
-/

def sharedDatabase : Database :=
  exec (fun _ => 0) Database.empty (.storeReserve .research "other" 5000 none 1 0)

/-- Two requests of 1,500 micro-USD. -/
def refundedInputs : List StudyInput :=
  [.measure 1500, .compare, .reserve "m" none 2 1, .settle none none,
    .other (.settle 1 (some 0) none),
    .measure 1500, .compare, .reserve "m" none 3 2]

theorem refundedInputs_exceed_cap :
    CappedProvider.init sharedDatabase.ledger (1 / 500) = .ok ⟨1 / 500, 1 / 200⟩ ∧
    Admissible (step ⟨1 / 500, 1 / 200⟩ (fun _ => 0)) Settlements (init sharedDatabase)
      refundedInputs ∧
    1 / 500 < Store.usd (run (step ⟨1 / 500, 1 / 200⟩ (fun _ => 0)) (init sharedDatabase)
      refundedInputs).charged := by
  decide +kernel

/-- Up to the refund the study is within its cap. -/
theorem study_within_cap_before_refund :
    Store.usd (run (step ⟨1 / 500, 1 / 200⟩ (fun _ => 0)) (init sharedDatabase)
      (refundedInputs.take 5)).charged ≤ 1 / 500 :=
  study_within_cap (fun _ => 0) sharedDatabase (show (0 : ℚ) ≤ 1 / 500 by norm_num)
    (by
      intro microUsd near
      rw [Store.usd, CappedProvider.tolerance] at near
      have whole : microUsd ≤ 2000 := by
        have below : (microUsd : ℚ) < (2001 : ℤ) := by
          push_cast
          linarith
        exact Int.lt_add_one_iff.mp (Int.cast_lt.mp below)
      have bound : Store.usd microUsd ≤ Store.usd 2000 := Store.usd_le_usd.mpr whole
      norm_num [Store.usd] at bound ⊢
      linarith)
    (by decide +kernel) (by decide +kernel)

end Study

end ForgeRL
