import ForgeRL.Library.Buckets
import ForgeRL.Library.Discounted
import ForgeRL.Library.Equality
import ForgeRL.Sandbox.Grader
import ForgeRL.Bench.Router
import Mathlib.Tactic.NormNum

namespace ForgeRL

open Library

/-!
# Fitted Q

The learner files every accepted transition under its encoded state and its
action.  A round replaces the value of each such pair by the mean, over the
transitions filed there, of the reward and the discounted best stored value
of the next state among the actions that are legal there.  Rounds stop at a
limit, or when none of the values moves by a billionth.

The arithmetic is exact.  What a round computes is then a discounted backup on
the pairs that were observed, and the values approach its only fixed point.
-/

/-- A logged transition, as it is read from a file.  A field that is missing
where the program uses `get` is `null`.  The states are read through
`Observation`, where a missing optional key has its default. -/
structure TrainingRow where
  split : Json
  task_id : Json
  state : Observation
  action : Action
  reward : Json
  next_state : Observation
  terminal : Json
  cost_usd : Json
  behavior_action_probability : Json

namespace Router

/-- An entry of `normalized`. -/
structure Entry where
  state : String
  next_state : String
  next_legal : List Action
  action : Action
  reward : ℚ
  terminal : Bool
  task_id : Json

abbrev Values := Nested String Action ℚ

abbrev Buckets := Nested String Action (List Entry)

/-! ## Reading the transitions -/

/-- The value of an integer or of a finite float; other values have none. -/
def finiteNumber (value : Json) : Except Escape (Option ℚ) :=
  if Sandbox.TooLarge value then .error Sandbox.overflowError else .ok (Sandbox.exactValue? value)

def normalize (row : TrainingRow) : Except Escape Entry :=
  if Json.differs row.split (Json.string "train") = true ∨ row.task_id.isFalsy = true then
    .error (.valueError "Fitting requires train-only task provenance")
  else if row.action ∉ allowed_actions row.state then
    .error (.valueError "Illegal observed action")
  else
    match finiteNumber row.reward with
    | .error escape => .error escape
    | .ok none => .error (.valueError "Reward must be finite")
    | .ok (some reward) =>
      .ok {
        state := encode_state row.state
        next_state := encode_state row.next_state
        next_legal := allowed_actions row.next_state
        action := row.action
        reward := reward
        terminal := !row.terminal.isFalsy
        task_id := row.task_id }

/-- The loop over the transitions, which stops at the first that is refused. -/
def gather : List TrainingRow → Buckets → List Entry → Except Escape (Buckets × List Entry)
  | [], buckets, normalized => .ok (buckets, normalized)
  | row :: rows, buckets, normalized =>
    match normalize row with
    | .error escape => .error escape
    | .ok entry =>
      gather rows (buckets.append entry.state entry.action entry) (normalized ++ [entry])

/-! ## The rounds -/

/-- `max(values or [0])` -/
def greatest : List ℚ → ℚ
  | [] => 0
  | first :: rest => rest.foldl max first

/-- The stored values of the next state whose actions are legal there. -/
def candidates (q : Values) (entry : Entry) : List ℚ :=
  ((((Dict.get? q entry.next_state).getD ∅).rows.filter fun stored =>
    stored.1 ∈ entry.next_legal)).map Prod.snd

def target (gamma : ℚ) (q : Values) (entry : Entry) : ℚ :=
  entry.reward + if entry.terminal = true then 0 else gamma * greatest (candidates q entry)

/-- One round: the mean target of every bucket. -/
def update (gamma : ℚ) (buckets : Buckets) (q : Values) : Values :=
  buckets.mapValues fun _ _ rows => mean (rows.map (target gamma q))

/-- The value that is stored for a pair. -/
def stored (q : Values) (key : String) (action : Action) : ℚ := (q.at? key action).getD 0

/-- How far the values have moved, over all pairs of `q`. -/
def delta (updated q : Values) : ℚ :=
  greatest (q.entries.map fun entry => |stored updated entry.1 entry.2.1 - entry.2.2|)

def tolerance : ℚ := 1 / 10 ^ 9

def rounds (gamma : ℚ) (buckets : Buckets) : ℕ → Values → Values
  | 0, q => q
  | left + 1, q =>
    let updated := update gamma buckets q
    if delta updated q < tolerance then updated else rounds gamma buckets left updated

/-- The values before the first round. -/
def zeros (buckets : Buckets) : Values := buckets.mapValues fun _ _ _ => 0

structure Diagnostics where
  transitions : ℕ
  tasks : ℕ
  minimum_samples : ℤ

structure Fitted where
  artifact : Artifact
  training_digest : String
  diagnostics : Diagnostics
  gamma : ℚ

/-- The members of the set of task identifiers; a list or a mapping cannot be
one. -/
def taskKeys (normalized : List Entry) : Option (List Key) :=
  normalized.mapM fun entry => entry.task_id.key?

/-- `fit_q`.  The digest of the accepted entries is a parameter. -/
def fit_q (digest : List Entry → String) (transitions : List TrainingRow) (gamma : ℚ)
    (iterations min_samples : ℤ) : Except Escape Fitted :=
  if ¬ (0 ≤ gamma ∧ gamma < 1) ∨ iterations < 1 ∨ min_samples < 1 then
    .error (.valueError "Invalid fitting configuration")
  else
    match gather transitions ∅ [] with
    | .error escape => .error escape
    | .ok (buckets, normalized) =>
      match taskKeys normalized with
      | none => .error .other
      | some tasks =>
        .ok {
          artifact := {
            trained := min_samples ≤ normalized.length
            feature_version := featureVersion
            values := rounds gamma buckets iterations.toNat (zeros buckets)
            action_counts := buckets.mapValues fun _ _ rows => (rows.length : ℤ) }
          training_digest := digest normalized
          diagnostics := {
            transitions := normalized.length
            tasks := tasks.dedup.length
            minimum_samples := min_samples }
          gamma := gamma }

/-! ## What is accepted -/

/-- The buckets of some entries. -/
def observed (entries : List Entry) : Buckets :=
  Nested.collect (entries.map fun entry => (entry.state, entry.action, entry))

/-- Every transition is read to its entry. -/
def Reads (transitions : List TrainingRow) (entries : List Entry) : Prop :=
  transitions.map normalize = entries.map .ok

theorem Reads.mem {transitions : List TrainingRow} {entries : List Entry}
    (reads : Reads transitions entries) {entry : Entry} (member : entry ∈ entries) :
    ∃ row ∈ transitions, normalize row = .ok entry := by
  have listed : .ok entry ∈ transitions.map normalize := by
    rw [reads]
    exact List.mem_map_of_mem member
  exact List.mem_map.mp listed

theorem gather_ok_iff {transitions : List TrainingRow} {buckets : Buckets}
    {normalized : List Entry} {gathered : Buckets × List Entry} :
    gather transitions buckets normalized = .ok gathered ↔
      ∃ entries, Reads transitions entries ∧
        gathered = (entries.foldl (fun buckets entry =>
          buckets.append entry.state entry.action entry) buckets, normalized ++ entries) := by
  unfold Reads
  induction transitions generalizing buckets normalized with
  | nil =>
    constructor
    · intro accepted
      cases accepted
      exact ⟨[], rfl, by simp⟩
    · rintro ⟨entries, reads, rfl⟩
      cases List.map_eq_nil_iff.mp reads.symm
      simp [gather]
  | cons row transitions ih =>
    unfold gather
    rw [List.map_cons]
    cases read : normalize row with
    | error escape =>
      constructor
      · rintro ⟨⟩
      · rintro ⟨entries, reads, rfl⟩
        rcases List.map_eq_cons_iff.mp reads.symm with ⟨entry, others, _, impossible, _⟩
        cases impossible
    | ok entry =>
      dsimp only
      rw [ih]
      constructor
      · rintro ⟨entries, reads, rfl⟩
        exact ⟨entry :: entries, by rw [reads, List.map_cons], by simp⟩
      · rintro ⟨entries, reads, rfl⟩
        rcases List.map_eq_cons_iff.mp reads.symm with ⟨first, others, rfl, same, rest⟩
        cases same
        exact ⟨others, rest.symm, by simp⟩

theorem gather_start {transitions : List TrainingRow} {gathered : Buckets × List Entry} :
    gather transitions ∅ [] = .ok gathered ↔
      ∃ entries, Reads transitions entries ∧ gathered = (observed entries, entries) := by
  rw [gather_ok_iff]
  simp only [observed, Nested.collect, List.foldl_map, List.nil_append]

structure Configured (gamma : ℚ) (iterations min_samples : ℤ) : Prop where
  nonneg : 0 ≤ gamma
  below : gamma < 1
  iterates : 1 ≤ iterations
  samples : 1 ≤ min_samples

/-- What is fitted to accepted entries. -/
structure Fits (digest : List Entry → String) (entries : List Entry) (gamma : ℚ)
    (iterations min_samples : ℤ) (fitted : Fitted) : Prop where
  trained : fitted.artifact.trained = decide (min_samples ≤ entries.length)
  version : fitted.artifact.feature_version = featureVersion
  values : fitted.artifact.values =
    rounds gamma (observed entries) iterations.toNat (zeros (observed entries))
  counts : fitted.artifact.action_counts =
    (observed entries).mapValues fun _ _ rows => (rows.length : ℤ)

theorem fit_q_ok {digest : List Entry → String} {transitions : List TrainingRow} {gamma : ℚ}
    {iterations min_samples : ℤ} {fitted : Fitted}
    (accepted : fit_q digest transitions gamma iterations min_samples = .ok fitted) :
    Configured gamma iterations min_samples ∧ ∃ entries, Reads transitions entries ∧
      (taskKeys entries).isSome ∧
      Fits digest entries gamma iterations min_samples fitted := by
  unfold fit_q at accepted
  split_ifs at accepted with invalid
  have configured : Configured gamma iterations min_samples := by
    push Not at invalid
    exact ⟨invalid.1.1, invalid.1.2, invalid.2.1, invalid.2.2⟩
  refine ⟨configured, ?_⟩
  cases gathers : gather transitions ∅ [] with
  | error escape =>
    rw [gathers] at accepted
    cases accepted
  | ok gathered =>
    rcases gather_start.mp gathers with ⟨entries, reads, rfl⟩
    rw [gathers] at accepted
    dsimp only at accepted
    cases tasks : taskKeys entries with
    | none =>
      rw [tasks] at accepted
      cases accepted
    | some keys =>
      rw [tasks] at accepted
      cases accepted
      exact ⟨entries, reads, by simp [tasks], rfl, rfl, rfl, rfl⟩

/-- Valid settings and readable transitions with hashable tasks are accepted. -/
theorem fit_q_of_reads (digest : List Entry → String) {transitions : List TrainingRow}
    {entries : List Entry} {gamma : ℚ} {iterations min_samples : ℤ}
    (configured : Configured gamma iterations min_samples) (reads : Reads transitions entries)
    (hashable : (taskKeys entries).isSome) :
    ∃ fitted, fit_q digest transitions gamma iterations min_samples = .ok fitted ∧
      Fits digest entries gamma iterations min_samples fitted := by
  rcases Option.isSome_iff_exists.mp hashable with ⟨keys, tasks⟩
  have valid : ¬ (¬ (0 ≤ gamma ∧ gamma < 1) ∨ iterations < 1 ∨ min_samples < 1) := by
    push Not
    exact ⟨⟨configured.nonneg, configured.below⟩, configured.iterates, configured.samples⟩
  unfold fit_q
  rw [if_neg valid, gather_start.mpr ⟨entries, reads, rfl⟩]
  dsimp only
  rw [tasks]
  exact ⟨_, rfl, rfl, rfl, rfl, rfl⟩

/-- The entries with an encoded state and an action, in their order. -/
def bucketOf (entries : List Entry) (key : String) (action : Action) : List Entry :=
  entries.filter fun entry => entry.state = key ∧ entry.action = action

theorem observed_at? (entries : List Entry) (key : String) (action : Action) :
    (observed entries).at? key action =
      if bucketOf entries key action = [] then none else some (bucketOf entries key action) := by
  have bucket : Nested.filed (entries.map fun entry => (entry.state, entry.action, entry))
      key action = bucketOf entries key action := by
    unfold Nested.filed bucketOf
    rw [List.filter_map, List.map_map]
    exact List.map_id _
  unfold observed
  rw [Nested.at?_collect, bucket]

/-! ## Values and their support -/

theorem greatest_mem {values : List ℚ} (some_ : values ≠ []) : greatest values ∈ values := by
  cases values with
  | nil => exact absurd rfl some_
  | cons first rest =>
    show rest.foldl max first ∈ first :: rest
    clear some_
    induction rest generalizing first with
    | nil => exact List.mem_singleton_self _
    | cons next rest ih =>
      rw [List.foldl_cons]
      rcases List.mem_cons.mp (ih (max first next)) with same | later
      · rw [same]
        rcases max_choice first next with left | right
        · rw [left]
          exact List.mem_cons_self
        · rw [right]
          exact List.mem_cons_of_mem _ List.mem_cons_self
      · exact List.mem_cons_of_mem _ (List.mem_cons_of_mem _ later)

theorem le_greatest {values : List ℚ} {value : ℚ} (member : value ∈ values) :
    value ≤ greatest values := by
  have folded (first : ℚ) (rest : List ℚ) :
      first ≤ rest.foldl max first ∧ ∀ value ∈ rest, value ≤ rest.foldl max first := by
    induction rest generalizing first with
    | nil => exact ⟨le_rfl, fun _ absent => by cases absent⟩
    | cons next rest ih =>
      rw [List.foldl_cons]
      have grown := ih (max first next)
      refine ⟨(le_max_left _ _).trans grown.1, fun value listed => ?_⟩
      rcases List.mem_cons.mp listed with rfl | later
      · exact (le_max_right _ _).trans grown.1
      · exact grown.2 value later
  cases values with
  | nil => cases member
  | cons first rest =>
    rcases List.mem_cons.mp member with rfl | later
    · exact (folded value rest).1
    · exact (folded first rest).2 value later

/-- The largest value depends on which values there are only. -/
theorem greatest_congr {first second : List ℚ} (same : ∀ value, value ∈ first ↔ value ∈ second) :
    greatest first = greatest second := by
  by_cases empty : first = []
  · have none_ : second = [] := by
      apply List.eq_nil_iff_forall_not_mem.mpr
      intro value member
      rw [← same value, empty] at member
      cases member
    rw [empty, none_]
  · have member := greatest_mem empty
    have other : second ≠ [] := List.ne_nil_of_mem ((same _).mp member)
    exact le_antisymm (le_greatest ((same _).mp member))
      (le_greatest ((same _).mpr (greatest_mem other)))

theorem mem_candidates {q : Values} {entry : Entry} {value : ℚ} :
    value ∈ candidates q entry ↔
      ∃ action ∈ entry.next_legal, q.at? entry.next_state action = some value := by
  unfold candidates Nested.at?
  rw [List.mem_map]
  constructor
  · rintro ⟨⟨action, value⟩, member, rfl⟩
    rcases List.mem_filter.mp member with ⟨listed, legal⟩
    refine ⟨action, of_decide_eq_true legal, ?_⟩
    cases group : Dict.get? q entry.next_state with
    | none =>
      rw [group] at listed
      cases listed
    | some values =>
      rw [group] at listed
      exact (Dict.get?_eq_some_iff _ _ _).mpr listed
  · rintro ⟨action, legal, found⟩
    rcases Option.bind_eq_some_iff.mp found with ⟨values, group, present⟩
    refine ⟨(action, value), List.mem_filter.mpr ⟨?_, decide_eq_true legal⟩, rfl⟩
    rw [group]
    exact (Dict.get?_eq_some_iff _ _ _).mp present

/-- A target depends on what is stored for each pair only. -/
theorem target_congr (gamma : ℚ) {q p : Values}
    (same : ∀ key action, q.at? key action = p.at? key action) :
    target gamma q = target gamma p := by
  funext entry
  have greatest_ : greatest (candidates q entry) = greatest (candidates p entry) := by
    apply greatest_congr
    intro value
    simp only [mem_candidates, same]
  unfold target
  rw [greatest_]

theorem update_congr (gamma : ℚ) (buckets : Buckets) {q p : Values}
    (same : ∀ key action, q.at? key action = p.at? key action) :
    update gamma buckets q = update gamma buckets p := by
  unfold update
  rw [target_congr gamma same]

theorem update_at? (gamma : ℚ) (buckets : Buckets) (q : Values) (key : String)
    (action : Action) : (update gamma buckets q).at? key action =
      (buckets.at? key action).map fun rows => mean (rows.map (target gamma q)) :=
  Nested.at?_mapValues _ _ _ _

theorem zeros_at? (buckets : Buckets) (key : String) (action : Action) :
    (zeros buckets).at? key action = (buckets.at? key action).map fun _ => 0 :=
  Nested.at?_mapValues _ _ _ _

/-- What is stored is stored for the observed pairs. -/
def Supports (buckets : Buckets) (q : Values) : Prop :=
  ∀ key action, (q.at? key action).isSome = (buckets.at? key action).isSome

theorem supports_update (gamma : ℚ) (buckets : Buckets) (q : Values) :
    Supports buckets (update gamma buckets q) := fun key action => by
  rw [update_at?, Option.isSome_map]

theorem supports_zeros (buckets : Buckets) : Supports buckets (zeros buckets) :=
  fun key action => by
    rw [zeros_at?, Option.isSome_map]

/-- The values after some rounds. -/
def iterate (gamma : ℚ) (buckets : Buckets) (n : ℕ) : Values :=
  (update gamma buckets)^[n] (zeros buckets)

theorem iterate_succ (gamma : ℚ) (buckets : Buckets) (n : ℕ) :
    iterate gamma buckets (n + 1) = update gamma buckets (iterate gamma buckets n) :=
  Function.iterate_succ_apply' _ _ _

theorem supports_iterate (gamma : ℚ) (buckets : Buckets) (n : ℕ) :
    Supports buckets (iterate gamma buckets n) := by
  cases n with
  | zero => exact supports_zeros buckets
  | succ n =>
    rw [iterate_succ]
    exact supports_update gamma buckets _

/-! ## The distance between two tables -/

theorem le_delta {updated q : Values} {key : String} {action : Action} {value : ℚ}
    (found : q.at? key action = some value) :
    |stored updated key action - value| ≤ delta updated q := by
  apply le_greatest
  exact List.mem_map.mpr ⟨(key, action, value), Nested.mem_entries.mpr found, rfl⟩

theorem delta_le {updated q : Values} {bound : ℚ} (nonneg : 0 ≤ bound)
    (near : ∀ key action value, q.at? key action = some value →
      |stored updated key action - value| ≤ bound) : delta updated q ≤ bound := by
  unfold delta
  by_cases empty : (q.entries.map fun entry =>
      |stored updated entry.1 entry.2.1 - entry.2.2|) = []
  · rw [empty]
    exact nonneg
  · rcases List.mem_map.mp (greatest_mem empty) with ⟨⟨key, action, value⟩, member, same⟩
    rw [← same]
    exact near key action value (Nested.mem_entries.mp member)

theorem delta_nonneg (updated q : Values) : 0 ≤ delta updated q := by
  unfold delta
  by_cases empty : (q.entries.map fun entry =>
      |stored updated entry.1 entry.2.1 - entry.2.2|) = []
  · rw [empty]
    exact le_rfl
  · rcases List.mem_map.mp (greatest_mem empty) with ⟨entry, _, same⟩
    rw [← same]
    exact abs_nonneg _

/-! ## The loop -/

/-- The rounds stop after the first round that moves no value by the tolerance,
and after the last round otherwise. -/
structure Stops (gamma : ℚ) (buckets : Buckets) (q : Values) (limit n : ℕ) : Prop where
  within_limit : n ≤ limit
  moved : ∀ earlier, earlier + 1 < n →
    ¬ delta ((update gamma buckets)^[earlier + 1] q) ((update gamma buckets)^[earlier] q) <
      tolerance
  settled : n < limit → ∃ last, n = last + 1 ∧
    delta ((update gamma buckets)^[last + 1] q) ((update gamma buckets)^[last] q) < tolerance

theorem rounds_eq_iterate (gamma : ℚ) (buckets : Buckets) (limit : ℕ) (q : Values) :
    ∃ n, Stops gamma buckets q limit n ∧
      rounds gamma buckets limit q = (update gamma buckets)^[n] q := by
  induction limit generalizing q with
  | zero =>
    refine ⟨0, ⟨le_rfl, ?_, fun impossible => absurd impossible (by omega)⟩, rfl⟩
    intro earlier impossible
    omega
  | succ limit ih =>
    unfold rounds
    dsimp only
    split_ifs with stopped
    · refine ⟨1, ⟨by omega, ?_, fun _ => ⟨0, rfl, stopped⟩⟩, rfl⟩
      intro earlier impossible
      omega
    · rcases ih (update gamma buckets q) with ⟨n, stops, same⟩
      refine ⟨n + 1, ⟨by have := stops.within_limit; omega, ?_, ?_⟩, same⟩
      · intro earlier before
        cases earlier with
        | zero => exact stopped
        | succ earlier => exact stops.moved earlier (by omega)
      · intro early
        rcases stops.settled (by omega) with ⟨last, rfl, small⟩
        exact ⟨last + 1, rfl, small⟩

/-! ## Three transitions -/

/-- A first retry that does not end its episode. -/
def firstRetry : TrainingRow where
  split := Json.string "train"
  task_id := Json.string "a"
  state := {
    public_passed := 0, public_total := 2, attempts := 0, max_steps := 6, decisions := 0,
    max_decisions := 10, budget_remaining_usd := 1, current_model := .cheap, improvement := 0,
    can_rollback := false, rollbacks := 0, retries := 0, verification := none }
  action := .retry
  reward := .int 1
  next_state := {
    public_passed := 1, public_total := 2, attempts := 1, max_steps := 6, decisions := 1,
    max_decisions := 10, budget_remaining_usd := 1, current_model := .cheap, improvement := 1,
    can_rollback := false, rollbacks := 0, retries := 0, verification := none }
  terminal := .bool false
  cost_usd := .int 0
  behavior_action_probability := .null

/-- A repair after it that comes back to the same state. -/
def openRepair : TrainingRow :=
  { firstRetry with
    state := firstRetry.next_state
    action := .repair
    reward := .int 0 }

/-- The repair that ends the episode. -/
def lastRepair : TrainingRow :=
  { firstRetry with
    state := firstRetry.next_state
    action := .repair
    terminal := .bool true }

def sampleRows : List TrainingRow := [firstRetry, openRepair, lastRepair]

def entryOf (row : TrainingRow) (reward : ℚ) : Entry where
  state := encode_state row.state
  next_state := encode_state row.next_state
  next_legal := allowed_actions row.next_state
  action := row.action
  reward := reward
  terminal := !row.terminal.isFalsy
  task_id := row.task_id

def sampleEntries : List Entry :=
  [entryOf firstRetry 1, entryOf openRepair 0, entryOf lastRepair 1]

theorem normalize_entryOf {row : TrainingRow} {reward : ℚ}
    (train : ¬ (Json.differs row.split (Json.string "train") = true ∨ row.task_id.isFalsy = true))
    (legal : row.action ∈ allowed_actions row.state) (small : ¬ Sandbox.TooLarge row.reward)
    (exact_ : Sandbox.exactValue? row.reward = some reward) :
    normalize row = .ok (entryOf row reward) := by
  have finite : finiteNumber row.reward = .ok (some reward) := by
    unfold finiteNumber
    rw [if_neg small, exact_]
  unfold normalize
  rw [if_neg train, if_neg (not_not_intro legal), finite]
  rfl

theorem reads_sampleRows : Reads sampleRows sampleEntries := by
  unfold Reads sampleRows sampleEntries
  simp only [List.map_cons, List.map_nil]
  rw [@normalize_entryOf firstRetry 1 (by decide) (by decide +kernel) (by decide +kernel) rfl,
    @normalize_entryOf openRepair 0 (by decide) (by decide +kernel) (by decide +kernel) rfl,
    @normalize_entryOf lastRepair 1 (by decide) (by decide +kernel) (by decide +kernel) rfl]

/-- The defaults of the settings. -/
theorem configured_defaults : Configured (9 / 10) 100 12 where
  nonneg := by norm_num
  below := by norm_num
  iterates := by norm_num
  samples := by norm_num

end Router

end ForgeRL
