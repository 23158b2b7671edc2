import ForgeRL.Bench.FittedQ
import Mathlib.Tactic.NormNum

namespace ForgeRL

open Library

/-!
# Convergence of fitted Q

The observed pairs of a state and an action are the points of a discounted
backup: the outcomes of a pair are the transitions filed under it, and the next
points of a transition are the observed pairs of its next state that are legal
there, or none after a terminal one.  On tables that store a value for exactly
these pairs, a round of the learner is that backup.
-/

namespace Router

/-- An observed pair of an encoded state and an action. -/
abbrev Point (buckets : Buckets) :=
  {pair : String × Action // (buckets.at? pair.1 pair.2).isSome}

/-- The values of a table at the observed pairs. -/
def valuesOf (buckets : Buckets) (q : Values) : Point buckets → ℚ :=
  fun point => stored q point.1.1 point.1.2

section Backup

variable (buckets : Buckets)

open Classical in
/-- The observed pairs that a transition may lead to. -/
noncomputable def nextPoints (entry : Entry) : Finset (Point buckets) :=
  if entry.terminal = true then ∅
  else (Set.toFinite {point : Point buckets |
    point.1.1 = entry.next_state ∧ point.1.2 ∈ entry.next_legal}).toFinset

/-- The transitions of a pair, as outcomes of the backup. -/
noncomputable def outcomes (point : Point buckets) : List (ℚ × Finset (Point buckets)) :=
  ((buckets.at? point.1.1 point.1.2).getD []).map fun entry =>
    (entry.reward, nextPoints buckets entry)

variable {buckets}

theorem mem_nextPoints {entry : Entry} (goes_on : ¬ entry.terminal = true)
    {point : Point buckets} : point ∈ nextPoints buckets entry ↔
      point.1.1 = entry.next_state ∧ point.1.2 ∈ entry.next_legal := by
  unfold nextPoints
  rw [if_neg goes_on, Set.Finite.mem_toFinset]
  rfl

/-- The value that is stored for an observed pair of a table with the same
support. -/
theorem Supports.at? {q : Values} (supports : Supports buckets q) (point : Point buckets) :
    q.at? point.1.1 point.1.2 = some (valuesOf buckets q point) := by
  have present := (supports point.1.1 point.1.2).trans point.2
  rcases Option.isSome_iff_exists.mp present with ⟨value, found⟩
  unfold valuesOf stored
  rw [found]
  rfl

theorem Supports.point {q : Values} (supports : Supports buckets q) {key : String}
    {action : Action} {value : ℚ} (found : q.at? key action = some value) :
    ∃ point : Point buckets, point.1 = (key, action) ∧ value = valuesOf buckets q point := by
  have present : (buckets.at? key action).isSome := by
    rw [← supports, found]
    rfl
  refine ⟨⟨(key, action), present⟩, rfl, ?_⟩
  exact Option.some.inj (found.symm.trans (supports.at? ⟨(key, action), present⟩))

/-- The largest candidate is the best value of the next points. -/
theorem greatest_candidates {q : Values} (supports : Supports buckets q) {entry : Entry}
    (goes_on : ¬ entry.terminal = true) :
    greatest (candidates q entry) = best (valuesOf buckets q) (nextPoints buckets entry) := by
  have listed (point : Point buckets) (next : point ∈ nextPoints buckets entry) :
      valuesOf buckets q point ∈ candidates q entry := by
    rcases (mem_nextPoints goes_on).mp next with ⟨state, legal⟩
    exact mem_candidates.mpr ⟨_, legal, state ▸ supports.at? point⟩
  have reached (value : ℚ) (member : value ∈ candidates q entry) :
      ∃ point ∈ nextPoints buckets entry, value = valuesOf buckets q point := by
    rcases mem_candidates.mp member with ⟨action, legal, found⟩
    rcases supports.point found with ⟨point, named, same⟩
    refine ⟨point, (mem_nextPoints goes_on).mpr ?_, same⟩
    rw [named]
    exact ⟨rfl, legal⟩
  rcases (nextPoints buckets entry).eq_empty_or_nonempty with empty | some_
  · have none_ : candidates q entry = [] := by
      apply List.eq_nil_iff_forall_not_mem.mpr
      intro value member
      rcases reached value member with ⟨point, next, _⟩
      rw [empty] at next
      simp at next
    rw [none_, empty, best_empty]
    rfl
  · rcases best_attained (valuesOf buckets q) some_ with ⟨point, next, attained⟩
    have member := listed point next
    apply le_antisymm
    · rcases reached _ (greatest_mem (List.ne_nil_of_mem member)) with ⟨other, further, same⟩
      rw [same]
      exact le_best further
    · rw [attained]
      exact le_greatest member

/-- A round is a backup on the observed pairs. -/
theorem valuesOf_update (gamma : ℚ) {q : Values} (supports : Supports buckets q) :
    valuesOf buckets (update gamma buckets q) =
      backup gamma (outcomes buckets) (valuesOf buckets q) := by
  funext point
  rcases Option.isSome_iff_exists.mp point.2 with ⟨rows, found⟩
  unfold valuesOf stored backup outcomes
  rw [update_at?, found, Option.map_some, Option.getD_some, Option.getD_some, List.map_map]
  congr 1
  apply List.map_congr_left
  intro entry _
  show target gamma q entry = entry.reward + gamma * best _ (nextPoints buckets entry)
  unfold target
  by_cases ends : entry.terminal = true
  · unfold nextPoints
    rw [if_pos ends, if_pos ends, best_empty, mul_zero]
  · rw [if_neg ends, greatest_candidates supports ends]
    rfl

theorem valuesOf_zeros : valuesOf buckets (zeros buckets) = 0 := by
  funext point
  rcases Option.isSome_iff_exists.mp point.2 with ⟨rows, found⟩
  unfold valuesOf stored
  rw [zeros_at?, found]
  rfl

theorem valuesOf_iterate (gamma : ℚ) (n : ℕ) :
    valuesOf buckets (iterate gamma buckets n) = (backup gamma (outcomes buckets))^[n] 0 := by
  induction n with
  | zero => exact valuesOf_zeros
  | succ n ih =>
    rw [iterate_succ, Function.iterate_succ_apply',
      valuesOf_update gamma (supports_iterate gamma buckets n), ih]

/-- Tables with the same support and the same values have the same next round. -/
theorem update_eq_of_valuesOf (gamma : ℚ) {q p : Values} (supports : Supports buckets q)
    (other : Supports buckets p) (same : valuesOf buckets q = valuesOf buckets p) :
    update gamma buckets q = update gamma buckets p := by
  apply update_congr
  intro key action
  by_cases present : (buckets.at? key action).isSome
  · let point : Point buckets := ⟨(key, action), present⟩
    exact (supports.at? point).trans
      ((congrArg some (congrFun same point)).trans (other.at? point).symm)
  · have absent := supports key action
    have missing := other key action
    rw [Bool.not_eq_true] at present
    rw [present, Option.isSome_eq_false_iff, Option.isNone_iff_eq_none] at absent missing
    rw [absent, missing]

/-- The value at a pair, or zero where the pair was not observed. -/
def valueAt (values : Point buckets → ℚ) (key : String) (action : Action) : ℚ :=
  if present : (buckets.at? key action).isSome then values ⟨(key, action), present⟩ else 0

/-- The table of some values at the observed pairs. -/
def tableOf (values : Point buckets → ℚ) : Values :=
  buckets.mapValues fun key action _ => valueAt values key action

theorem supports_tableOf (values : Point buckets → ℚ) : Supports buckets (tableOf values) :=
  fun key action => by
    unfold tableOf
    rw [Nested.at?_mapValues, Option.isSome_map]

theorem valuesOf_tableOf (values : Point buckets → ℚ) :
    valuesOf buckets (tableOf values) = values := by
  funext point
  rcases Option.isSome_iff_exists.mp point.2 with ⟨rows, found⟩
  unfold valuesOf stored tableOf
  rw [Nested.at?_mapValues, found, Option.map_some, Option.getD_some]
  exact dif_pos point.2

/-- The distance of two tables bounds their values at every observed pair, and
nothing smaller does. -/
theorem within_delta {q p : Values} (other : Supports buckets p) :
    Within (delta q p) (valuesOf buckets q) (valuesOf buckets p) := fun point =>
  le_delta (other.at? point)

theorem delta_le_of_within {q p : Values} (other : Supports buckets p) {bound : ℚ}
    (nonneg : 0 ≤ bound) (within_ : Within bound (valuesOf buckets q) (valuesOf buckets p)) :
    delta q p ≤ bound := by
  apply delta_le nonneg
  intro key action value found
  rcases other.point found with ⟨point, named, rfl⟩
  have near := within_ point
  unfold valuesOf at near ⊢
  rw [named] at near ⊢
  exact near

/-- A round contracts the distance of two tables. -/
theorem update_contracts {gamma : ℚ} (nonneg : 0 ≤ gamma) {q p : Values}
    (supports : Supports buckets q) (other : Supports buckets p) :
    delta (update gamma buckets q) (update gamma buckets p) ≤ gamma * delta q p := by
  have start := delta_nonneg q p
  apply delta_le_of_within (supports_update gamma buckets p) (mul_nonneg nonneg start)
  rw [valuesOf_update gamma supports, valuesOf_update gamma other]
  exact backup_contracts (outcomes buckets) nonneg _ _ _ start (within_delta other)

/-- The fixed points of a round are the tables of the fixed points of the
backup. -/
theorem exists_fixed_table {gamma : ℚ} (nonneg : 0 ≤ gamma) (below : gamma < 1) :
    ∃ star, Supports buckets star ∧ update gamma buckets star = star ∧
      backup gamma (outcomes buckets) (valuesOf buckets star) = valuesOf buckets star := by
  rcases backup_fixed (outcomes buckets) nonneg below with ⟨values, fixed⟩
  have supports := supports_tableOf values
  have same : valuesOf buckets (update gamma buckets (tableOf values)) =
      valuesOf buckets (tableOf values) := by
    rw [valuesOf_update gamma supports, valuesOf_tableOf, fixed]
  refine ⟨update gamma buckets (tableOf values), supports_update _ _ _, ?_, ?_⟩
  · exact update_eq_of_valuesOf gamma (supports_update _ _ _) supports same
  · rw [same, valuesOf_tableOf, fixed]

theorem fixed_table_unique {gamma : ℚ} (nonneg : 0 ≤ gamma) (below : gamma < 1)
    {first second : Values} (supports : Supports buckets first) (other : Supports buckets second)
    (fixed : update gamma buckets first = first)
    (fixed' : update gamma buckets second = second) : first = second := by
  have same : valuesOf buckets first = valuesOf buckets second := by
    apply (backup_contracts (outcomes buckets) nonneg).fixed_unique below
    · rw [← valuesOf_update gamma supports, fixed]
    · rw [← valuesOf_update gamma other, fixed']
  rw [← fixed, ← fixed']
  exact update_eq_of_valuesOf gamma supports other same

end Backup

/-! ## Rewards -/

/-- Every reward of the entries is up to a bound. -/
def RewardsUpTo (bound : ℚ) (entries : List Entry) : Prop :=
  ∀ entry ∈ entries, |entry.reward| ≤ bound

theorem normalize_reward {row : TrainingRow} {entry : Entry} (read : normalize row = .ok entry) :
    Sandbox.exactValue? row.reward = some entry.reward := by
  unfold normalize finiteNumber at read
  split_ifs at read
  cases value : Sandbox.exactValue? row.reward with
  | none =>
    rw [value] at read
    cases read
  | some reward =>
    rw [value] at read
    have reward_ := congrArg Entry.reward (Except.ok.inj read)
    exact congrArg some reward_

theorem rewardsUpTo_of_reads {transitions : List TrainingRow} {entries : List Entry} {bound : ℚ}
    (reads : Reads transitions entries)
    (bounded : ∀ row ∈ transitions, ∀ reward, Sandbox.exactValue? row.reward = some reward →
      |reward| ≤ bound) : RewardsUpTo bound entries := by
  intro entry member
  rcases reads.mem member with ⟨row, listed, read⟩
  exact bounded row listed entry.reward (normalize_reward read)

theorem outcomes_bounded {entries : List Entry} {bound : ℚ}
    (bounded : RewardsUpTo bound entries) (point : Point (observed entries)) :
    ∀ outcome ∈ outcomes (observed entries) point, |outcome.1| ≤ bound := by
  intro outcome listed
  rcases List.mem_map.mp listed with ⟨entry, member, rfl⟩
  rw [observed_at?] at member
  split_ifs at member
  · cases member
  · exact bounded entry (List.mem_filter.mp member).1

/-- Where a pair was observed, a bound of the rewards is not negative. -/
theorem RewardsUpTo.nonneg {entries : List Entry} {bound : ℚ}
    (bounded : RewardsUpTo bound entries) (point : Point (observed entries)) : 0 ≤ bound := by
  have present := point.2
  rw [observed_at?] at present
  split_ifs at present with empty
  · cases present
  · rcases List.exists_mem_of_ne_nil _ empty with ⟨entry, member⟩
    exact (abs_nonneg _).trans (bounded entry (List.mem_filter.mp member).1)

/-! ## The fitted values -/

/-- Round `n` moved no value by the tolerance, and the loop stops after it. -/
def Settles (gamma : ℚ) (buckets : Buckets) (n : ℕ) : Prop :=
  delta (iterate gamma buckets n) (iterate gamma buckets (n - 1)) < tolerance

/-- Two tables are within a bound of each other at every pair of both. -/
def Near (bound : ℚ) (q p : Values) : Prop :=
  ∀ key action value other, q.at? key action = some value → p.at? key action = some other →
    |value - other| ≤ bound

theorem near_of_within {buckets : Buckets} {q p : Values} (supports : Supports buckets q)
    (other : Supports buckets p) {bound : ℚ}
    (within_ : Point buckets → Within bound (valuesOf buckets q) (valuesOf buckets p)) :
    Near bound q p := by
  intro key action value further found present
  rcases supports.point found with ⟨point, named, rfl⟩
  have same : p.at? key action = some (valuesOf buckets p point) := by
    have stored_ := other.at? point
    rwa [named] at stored_
  cases present.symm.trans same
  exact within_ point point

section Bounds

variable {entries : List Entry} {gamma R : ℚ}

theorem iterate_at?_bounded (nonneg : 0 ≤ gamma) (below : gamma < 1)
    (bounded : RewardsUpTo R entries) (n : ℕ) {key : String} {action : Action} {value : ℚ}
    (found : (iterate gamma (observed entries) n).at? key action = some value) :
    |value| ≤ R / (1 - gamma) := by
  rcases (supports_iterate gamma (observed entries) n).point found with ⟨point, _, rfl⟩
  have near := iterate_bounded (outcomes (observed entries)) nonneg below
    (bounded.nonneg point) (outcomes_bounded bounded) n point
  rw [← valuesOf_iterate, Pi.zero_apply, sub_zero] at near
  exact near

/-- The values of a table are a fixed point of the backup. -/
def Fixed (gamma : ℚ) (buckets : Buckets) (star : Values) : Prop :=
  backup gamma (outcomes buckets) (valuesOf buckets star) = valuesOf buckets star

variable {star : Values}

/-- After `n` rounds the fixed point is within `gamma ^ n * R / (1 - gamma)`. -/
theorem iterate_near (supports : Supports (observed entries) star)
    (fixed : Fixed gamma (observed entries) star) (nonneg : 0 ≤ gamma) (below : gamma < 1)
    (bounded : RewardsUpTo R entries) (n : ℕ) :
    Near (gamma ^ n * (R / (1 - gamma))) (iterate gamma (observed entries) n) star := by
  apply near_of_within (supports_iterate gamma _ n) supports
  intro point
  have positive := bounded.nonneg point
  have contracts := backup_contracts (outcomes (observed entries)) nonneg
  have start := contracts.within_of_moved below fixed positive
    (backup_zero_within _ positive (outcomes_bounded bounded))
  have near := contracts.iterate_within nonneg fixed
    (div_nonneg positive (sub_pos.mpr below).le) start n
  rwa [← valuesOf_iterate] at near

/-- After a round that moved no value by the tolerance, the fixed point is
within `gamma * 1e-9 / (1 - gamma)`. -/
theorem settled_near (supports : Supports (observed entries) star)
    (fixed : Fixed gamma (observed entries) star) (nonneg : 0 ≤ gamma) (below : gamma < 1)
    {n : ℕ} (settles : Settles gamma (observed entries) (n + 1)) :
    Near (gamma * tolerance / (1 - gamma)) (iterate gamma (observed entries) (n + 1)) star := by
  apply near_of_within (supports_iterate gamma _ (n + 1)) supports
  intro _
  have contracts := backup_contracts (outcomes (observed entries)) nonneg
  have before := supports_iterate gamma (observed entries) n
  have next : valuesOf (observed entries) (iterate gamma (observed entries) (n + 1)) =
      backup gamma (outcomes (observed entries))
        (valuesOf (observed entries) (iterate gamma (observed entries) n)) := by
    rw [iterate_succ, valuesOf_update gamma before]
  have step : Within tolerance
      (valuesOf (observed entries) (iterate gamma (observed entries) (n + 1)))
      (valuesOf (observed entries) (iterate gamma (observed entries) n)) := fun point =>
    (within_delta before point).trans settles.le
  rw [next] at step ⊢
  exact contracts.within_of_step below fixed (by norm_num [tolerance]) step

end Bounds

/-- On the pairs that were observed a round of the learner is a contraction, so
it has one fixed point; every iterate stays within `R / (1 - gamma)`, and the
fitted values after `n` rounds are within `gamma ^ n * R / (1 - gamma)` of the
fixed point, and within `gamma * 1e-9 / (1 - gamma)` when the loop stopped
early. -/
theorem fit_q_converges {digest : List Entry → String} {transitions : List TrainingRow}
    {gamma : ℚ} {iterations min_samples : ℤ} {fitted : Fitted} {R : ℚ}
    (accepted : fit_q digest transitions gamma iterations min_samples = .ok fitted)
    (bounded : ∀ row ∈ transitions, ∀ reward, Sandbox.exactValue? row.reward = some reward →
      |reward| ≤ R) :
    ∃ buckets normalized, gather transitions ∅ [] = .ok (buckets, normalized) ∧
      (∀ q p, Supports buckets q → Supports buckets p →
        delta (update gamma buckets q) (update gamma buckets p) ≤ gamma * delta q p) ∧
      (∀ n key action value, (iterate gamma buckets n).at? key action = some value →
        |value| ≤ R / (1 - gamma)) ∧
      ∃ star, Supports buckets star ∧ update gamma buckets star = star ∧
        (∀ other, Supports buckets other → update gamma buckets other = other → other = star) ∧
        ∃ n : ℕ, 1 ≤ n ∧ n ≤ iterations ∧
          fitted.artifact.values = iterate gamma buckets n ∧
          Supports buckets fitted.artifact.values ∧
          (∀ earlier, 1 ≤ earlier → earlier < n → ¬ Settles gamma buckets earlier) ∧
          (n < iterations → Settles gamma buckets n) ∧
          Near (gamma ^ n * (R / (1 - gamma))) fitted.artifact.values star ∧
          (Settles gamma buckets n →
            Near (gamma * (1 / 10 ^ 9) / (1 - gamma)) fitted.artifact.values star) := by
  rcases fit_q_ok accepted with ⟨configured, entries, reads, _, fits⟩
  have nonneg := configured.nonneg
  have below := configured.below
  have rewards := rewardsUpTo_of_reads reads bounded
  refine ⟨observed entries, entries, gather_start.mpr ⟨entries, reads, rfl⟩,
    fun q p => update_contracts nonneg, fun n key action value =>
    iterate_at?_bounded nonneg below rewards n, ?_⟩
  rcases exists_fixed_table nonneg below with ⟨star, supports, stays, fixed⟩
  refine ⟨star, supports, stays, fun other supported kept =>
    fixed_table_unique nonneg below supported supports kept stays, ?_⟩
  rcases rounds_eq_iterate gamma (observed entries) iterations.toNat (zeros (observed entries))
    with ⟨n, stops, same⟩
  have values : fitted.artifact.values = iterate gamma (observed entries) n :=
    fits.values.trans same
  have within_limit := stops.within_limit
  have limit := configured.iterates
  have started : 1 ≤ n := by
    by_contra never
    rcases stops.settled (by omega) with ⟨last, impossible, _⟩
    omega
  have support : Supports (observed entries) fitted.artifact.values := by
    rw [values]
    exact supports_iterate gamma _ n
  rw [values]
  refine ⟨n, started, by omega, rfl, values ▸ support, ?_, ?_,
    iterate_near supports fixed nonneg below rewards n, ?_⟩
  · intro earlier first before
    cases earlier with
    | zero => omega
    | succ earlier => exact stops.moved earlier before
  · intro early
    rcases stops.settled (by omega) with ⟨last, rfl, small⟩
    exact small
  · intro settles
    cases n with
    | zero => omega
    | succ last => exact settled_near supports fixed nonneg below settles

/-- The fixed point of the three transitions: the last repair pays one, the one
before it comes back, and the first retry leads there. -/
def sampleValues : Values :=
  (observed sampleEntries).mapValues fun _ action _ =>
    if action = .retry then 20 / 11 else 10 / 11

theorem supports_sampleValues : Supports (observed sampleEntries) sampleValues := by
  intro key action
  rw [sampleValues, Nested.at?_mapValues, Option.isSome_map]

theorem fit_q_converges_repairs :
    ∃ fitted, fit_q (fun _ => "") sampleRows (9 / 10) 100 12 = .ok fitted ∧
      Near (9 / 10 * (1 / 10 ^ 9) / (1 - 9 / 10)) fitted.artifact.values sampleValues := by
  rcases fit_q_of_reads (fun _ => "") configured_defaults reads_sampleRows (by decide) with
    ⟨fitted, accepted, _⟩
  have bounded : ∀ row ∈ sampleRows, ∀ reward, Sandbox.exactValue? row.reward = some reward →
      |reward| ≤ (1 : ℚ) := by
    simp only [sampleRows, List.forall_mem_cons]
    refine ⟨?_, ?_, ?_, fun _ impossible => absurd impossible List.not_mem_nil⟩
    all_goals
      intro reward read
      rw [← Option.some.inj read]
      norm_num
  rcases fit_q_converges accepted bounded with ⟨buckets, normalized, gathered, _, _, star, _, _,
    unique, n, _, _, _, _, moved, settled, _, near⟩
  have same : buckets = observed sampleEntries := by
    have read := gathered.symm.trans (gather_start.mpr ⟨_, reads_sampleRows, rfl⟩)
    exact (Prod.mk.inj (Except.ok.inj read)).1
  subst same
  -- Thirty rounds settle, so that the loop has stopped before its limit.
  have thirty : Settles (9 / 10) (observed sampleEntries) 30 := by
    unfold Settles
    decide +kernel
  have early : n ≤ 30 := by
    by_contra later
    exact moved 30 (by norm_num) (by omega) thirty
  have fixed : update (9 / 10) (observed sampleEntries) sampleValues = sampleValues := by
    decide +kernel
  refine ⟨fitted, accepted, ?_⟩
  rw [unique sampleValues supports_sampleValues fixed]
  exact near (settled (by omega))

end Router

end ForgeRL
