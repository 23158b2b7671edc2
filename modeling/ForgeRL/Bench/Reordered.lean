import ForgeRL.Bench.FittedQ

namespace ForgeRL

open Library

/-!
# Fitted Q does not depend on the order

The buckets, the tables and the stored values keep the order in which the
transitions came.  Nothing that is computed from them does: a mean does not see
the order of a bucket nor that all of it is repeated, the largest of some values
depends on which values there are, and a lookup does not see where a key
stands.  So two runs of the loop on reordered transitions agree after every
round and stop after the same one.
-/

namespace Router

/-- The entries of a list in another order, each of them as often as the list
has it, a number of times over. -/
def Repeats {α : Type} (times : ℕ) (items repeated : List α) : Prop :=
  repeated.Perm (List.replicate times items).flatten

section Repeats

variable {α β : Type} {times : ℕ} {items repeated : List α}

theorem Repeats.map (repeats : Repeats times items repeated) (f : α → β) :
    Repeats times (items.map f) (repeated.map f) := by
  have mapped := List.Perm.map f repeats
  rwa [List.map_flatten, List.map_replicate] at mapped

theorem Repeats.filter (repeats : Repeats times items repeated) (keep : α → Bool) :
    Repeats times (items.filter keep) (repeated.filter keep) := by
  have kept := List.Perm.filter keep repeats
  rwa [List.filter_flatten, List.map_replicate] at kept

theorem Repeats.mem_iff (repeats : Repeats times items repeated) (some_ : times ≠ 0) {item : α} :
    item ∈ repeated ↔ item ∈ items := by
  rw [List.Perm.mem_iff repeats, List.mem_flatten]
  constructor
  · rintro ⟨copy, listed, member⟩
    rwa [List.eq_of_mem_replicate listed] at member
  · intro member
    exact ⟨items, List.mem_replicate.mpr ⟨some_, rfl⟩, member⟩

theorem Repeats.eq_nil_iff (repeats : Repeats times items repeated) (some_ : times ≠ 0) :
    repeated = [] ↔ items = [] := by
  simp only [List.eq_nil_iff_forall_not_mem, repeats.mem_iff some_]

theorem Repeats.length (repeats : Repeats times items repeated) :
    repeated.length = times * items.length := by
  rw [List.Perm.length_eq repeats, List.length_flatten, List.map_replicate, List.sum_replicate,
    smul_eq_mul]

theorem Repeats.mean {items repeated : List ℚ} (repeats : Repeats times items repeated)
    (some_ : times ≠ 0) : mean repeated = mean items := by
  rw [mean_perm repeats, mean_repeated items some_]

end Repeats

/-! ## Reading -/

theorem exists_reads {transitions : List TrainingRow}
    (readable : ∀ row ∈ transitions, ∃ entry, normalize row = .ok entry) :
    ∃ entries, Reads transitions entries := by
  unfold Reads
  induction transitions with
  | nil => exact ⟨[], rfl⟩
  | cons row rows ih =>
    rcases readable row List.mem_cons_self with ⟨entry, read⟩
    rcases ih fun other member => readable other (List.mem_cons_of_mem _ member) with
      ⟨entries, reads⟩
    exact ⟨entry :: entries, by rw [List.map_cons, List.map_cons, read, reads]⟩

/-- Reordered transitions are read to reordered entries. -/
theorem Reads.repeated {times : ℕ} {transitions reordered : List TrainingRow}
    {entries : List Entry} (reads : Reads transitions entries)
    (repeats : Repeats times transitions reordered) :
    ∃ others, Reads reordered others ∧ Repeats times entries others := by
  have readable : ∀ row ∈ reordered, ∃ entry, normalize row = .ok entry := by
    intro row member
    rcases List.mem_flatten.mp ((List.Perm.mem_iff repeats).mp member) with
      ⟨copy, listed, inside⟩
    have read : normalize row ∈ transitions.map normalize := by
      rw [List.eq_of_mem_replicate listed] at inside
      exact List.mem_map_of_mem inside
    rw [reads] at read
    rcases List.mem_map.mp read with ⟨entry, _, same⟩
    exact ⟨entry, same.symm⟩
  rcases exists_reads readable with ⟨others, reads'⟩
  refine ⟨others, reads', ?_⟩
  have mapped := repeats.map normalize
  rw [reads, reads'] at mapped
  unfold Repeats at mapped
  rw [← List.map_replicate, ← List.map_flatten] at mapped
  exact (List.map_perm_map_iff fun _ _ same => Except.ok.inj same).mp mapped

/-- The task identifiers make up a set when each of them can be a member. -/
theorem taskKeys_isSome {entries : List Entry} :
    (taskKeys entries).isSome ↔ ∀ entry ∈ entries, entry.task_id.key?.isSome := by
  unfold taskKeys
  induction entries with
  | nil => simp
  | cons entry entries ih =>
    rw [List.mapM_cons, List.forall_mem_cons, ← ih]
    cases entry.task_id.key? with
    | none => simp
    | some key =>
      cases entries.mapM fun entry : Entry => entry.task_id.key? with
      | none => simp
      | some keys => simp

/-! ## The rounds -/

/-- The same value is stored for every pair. -/
def SameValues (q p : Values) : Prop :=
  ∀ key action, q.at? key action = p.at? key action

theorem SameValues.delta {updated q updated' q' : Values} (same : SameValues updated updated')
    (before : SameValues q q') : delta updated q = delta updated' q' := by
  have moves (updated q : Values) (distance : ℚ) :
      distance ∈ (q.entries.map fun entry => |stored updated entry.1 entry.2.1 - entry.2.2|) ↔
        ∃ key action value, q.at? key action = some value ∧
          |(updated.at? key action).getD 0 - value| = distance := by
    rw [List.mem_map]
    constructor
    · rintro ⟨⟨key, action, value⟩, member, moved⟩
      exact ⟨key, action, value, Nested.mem_entries.mp member, moved⟩
    · rintro ⟨key, action, value, found, moved⟩
      exact ⟨(key, action, value), Nested.mem_entries.mpr found, moved⟩
  apply greatest_congr
  intro distance
  rw [moves, moves]
  simp only [same _ _, before _ _]

section Rounds

variable {times : ℕ} {entries others : List Entry}

/-- A bucket of the reordered entries is the reordered bucket. -/
theorem bucketOf_repeats (repeats : Repeats times entries others) (key : String)
    (action : Action) :
    Repeats times (bucketOf entries key action) (bucketOf others key action) :=
  repeats.filter _

theorem observed_map_congr {β : Type} (repeats : Repeats times entries others)
    (some_ : times ≠ 0) {first second : List Entry → β} {key : String} {action : Action}
    (same : first (bucketOf others key action) = second (bucketOf entries key action)) :
    ((observed others).at? key action).map first =
      ((observed entries).at? key action).map second := by
  rw [observed_at?, observed_at?]
  by_cases empty : bucketOf entries key action = []
  · rw [if_pos empty, if_pos (((bucketOf_repeats repeats key action).eq_nil_iff some_).mpr empty)]
    rfl
  · have filled := mt ((bucketOf_repeats repeats key action).eq_nil_iff some_).mp empty
    rw [if_neg empty, if_neg filled, Option.map_some, Option.map_some, same]

/-- A round on reordered entries stores the same values. -/
theorem update_reordered (repeats : Repeats times entries others) (some_ : times ≠ 0)
    (gamma : ℚ) {q p : Values} (same : SameValues q p) :
    SameValues (update gamma (observed others) q) (update gamma (observed entries) p) := by
  intro key action
  rw [update_at?, update_at?, target_congr gamma same]
  apply observed_map_congr repeats some_
  exact ((bucketOf_repeats repeats key action).map (target gamma p)).mean some_

theorem zeros_reordered (repeats : Repeats times entries others) (some_ : times ≠ 0) :
    SameValues (zeros (observed others)) (zeros (observed entries)) := by
  intro key action
  rw [zeros_at?, zeros_at?]
  exact observed_map_congr repeats some_ rfl

/-- The two loops agree after every round, and stop after the same one. -/
theorem rounds_reordered (repeats : Repeats times entries others) (some_ : times ≠ 0)
    (gamma : ℚ) (limit : ℕ) {q p : Values} (same : SameValues q p) :
    SameValues (rounds gamma (observed others) limit q)
      (rounds gamma (observed entries) limit p) := by
  induction limit generalizing q p with
  | zero => exact same
  | succ limit ih =>
    have next := update_reordered repeats some_ gamma same
    unfold rounds
    dsimp only
    rw [next.delta same]
    split_ifs
    · exact next
    · exact ih next

theorem full_rounds {buckets : Buckets} (full : buckets.Full) (gamma : ℚ) (limit : ℕ)
    {q : Values} (filled : q.Full) : (rounds gamma buckets limit q).Full := by
  induction limit generalizing q with
  | zero => exact filled
  | succ limit ih =>
    unfold rounds
    dsimp only
    split_ifs
    · exact full.mapValues _
    · exact ih (full.mapValues _)

end Rounds

/-! ## The artifacts -/

/-- Two artifacts with the same values, and with counts of the same pairs, route
every state alike. -/
theorem choose_action_reordered {first second : Artifact}
    (versions : first.feature_version = second.feature_version)
    (trained : first.trained = second.trained)
    (values : SameValues first.values second.values)
    (counts : ∀ key action, 0 < (Nested.at? first.action_counts key action).getD 0 ↔
      0 < (Nested.at? second.action_counts key action).getD 0) (state : Observation) :
    choose_action .adaptive state (some first) = choose_action .adaptive state (some second) := by
  have supported : first.supported state = second.supported state := by
    apply List.filterMap_congr
    intro action _
    have value := values (encode_state state) action
    have count := counts (encode_state state) action
    unfold Nested.at? at value count
    dsimp only
    rw [value]
    simp only [count]
  have learned : learnedAction (some first) state = learnedAction (some second) state := by
    unfold learnedAction
    dsimp only
    rw [versions, trained, supported]
  unfold choose_action
  dsimp only
  rw [learned]

/-- Two trained results route every state alike. -/
def RoutesAlike (first second : Fitted) : Prop :=
  first.artifact.trained = true → second.artifact.trained = true →
    ∀ state, choose_action .adaptive state (some first.artifact) =
      choose_action .adaptive state (some second.artifact)

/-- The counts of a bucket that is repeated are multiples of its counts. -/
def CountsTimes (times : ℕ) (first second : Fitted) : Prop :=
  ∀ key action, Nested.at? first.artifact.action_counts key action =
    (Nested.at? second.artifact.action_counts key action).map fun count => (times : ℤ) * count

section Fit

variable {digest : List Entry → String} {transitions reordered : List TrainingRow} {gamma : ℚ}
  {iterations min_samples : ℤ} {fitted : Fitted} {times : ℕ}

/-- Reordered transitions are accepted as well, and the result stores the same
values. -/
theorem fit_q_repeats
    (accepted : fit_q digest transitions gamma iterations min_samples = .ok fitted)
    (repeats : Repeats times transitions reordered) (some_ : times ≠ 0) :
    ∃ refitted, fit_q digest reordered gamma iterations min_samples = .ok refitted ∧
      Nested.Same refitted.artifact.values fitted.artifact.values ∧
      CountsTimes times refitted fitted ∧ RoutesAlike refitted fitted := by
  rcases fit_q_ok accepted with ⟨configured, entries, reads, hashable, fits⟩
  rcases reads.repeated repeats with ⟨others, reread, again⟩
  have members : (taskKeys others).isSome := by
    rw [taskKeys_isSome] at hashable ⊢
    exact fun entry member => hashable entry ((again.mem_iff some_).mp member)
  rcases fit_q_of_reads digest configured reread members with ⟨refitted, reaccepted, refits⟩
  have values : SameValues refitted.artifact.values fitted.artifact.values := by
    rw [fits.values, refits.values]
    exact rounds_reordered again some_ gamma _ (zeros_reordered again some_)
  have counts : CountsTimes times refitted fitted := by
    intro key action
    rw [fits.counts, refits.counts, Nested.at?_mapValues, Nested.at?_mapValues, Option.map_map]
    apply observed_map_congr again some_
    rw [(bucketOf_repeats again key action).length, Nat.cast_mul]
    rfl
  refine ⟨refitted, reaccepted, ?_, counts, ?_⟩
  · apply Nested.Same.of_at? _ _ values
    · rw [refits.values]
      exact full_rounds (Nested.Full.collect _) gamma _ ((Nested.Full.collect _).mapValues _)
    · rw [fits.values]
      exact full_rounds (Nested.Full.collect _) gamma _ ((Nested.Full.collect _).mapValues _)
  · intro trained retrained
    apply choose_action_reordered (refits.version.trans fits.version.symm)
      (trained.trans retrained.symm) values
    intro key action
    rw [counts key action]
    have positive : (0 : ℤ) < times := Nat.cast_pos.mpr (Nat.pos_of_ne_zero some_)
    cases Nested.at? fitted.artifact.action_counts key action with
    | none => rfl
    | some count => exact mul_pos_iff_of_pos_left positive

/-- A permutation counts as before. -/
theorem fit_q_permuted_counts {refitted : Fitted}
    (accepted : fit_q digest transitions gamma iterations min_samples = .ok fitted)
    (reaccepted : fit_q digest reordered gamma iterations min_samples = .ok refitted)
    (once : CountsTimes 1 refitted fitted) :
    Nested.Same refitted.artifact.action_counts fitted.artifact.action_counts := by
  rcases fit_q_ok accepted with ⟨_, _, _, _, fits⟩
  rcases fit_q_ok reaccepted with ⟨_, _, _, _, refits⟩
  apply Nested.Same.of_at?
  · rw [refits.counts]
    exact (Nested.Full.collect _).mapValues _
  · rw [fits.counts]
    exact (Nested.Full.collect _).mapValues _
  · intro key action
    rw [once key action]
    simp

/-- The result does not depend on the order of the transitions, nor on how
often the whole list is repeated: a permutation gives the same values and
counts, a repetition the same values, and trained artifacts route every state
alike. -/
theorem fit_q_order_independent
    (accepted : fit_q digest transitions gamma iterations min_samples = .ok fitted) :
    (∀ permuted, permuted.Perm transitions →
      ∃ refitted, fit_q digest permuted gamma iterations min_samples = .ok refitted ∧
        Nested.Same refitted.artifact.values fitted.artifact.values ∧
        Nested.Same refitted.artifact.action_counts fitted.artifact.action_counts ∧
        RoutesAlike refitted fitted) ∧
    ∀ k, 1 ≤ k →
      ∃ refitted, fit_q digest (List.replicate k transitions).flatten gamma iterations
          min_samples = .ok refitted ∧
        Nested.Same refitted.artifact.values fitted.artifact.values ∧
        RoutesAlike refitted fitted := by
  constructor
  · intro permuted same
    have once : Repeats 1 transitions permuted := by
      unfold Repeats
      rwa [List.replicate_one, List.flatten_singleton]
    rcases fit_q_repeats accepted once one_ne_zero with
      ⟨refitted, reaccepted, values, counts, alike⟩
    exact ⟨refitted, reaccepted, values, fit_q_permuted_counts accepted reaccepted counts, alike⟩
  · intro k some_
    rcases fit_q_repeats accepted (List.Perm.refl (List.replicate k transitions).flatten)
      (Nat.one_le_iff_ne_zero.mp some_) with ⟨refitted, reaccepted, values, _, alike⟩
    exact ⟨refitted, reaccepted, values, alike⟩

end Fit

/-- The three transitions backwards, and twelve times over. -/
theorem fit_q_order_independent_repairs :
    ∃ fitted, fit_q (fun _ => "") sampleRows (9 / 10) 100 12 = .ok fitted ∧
      (∃ refitted, fit_q (fun _ => "") sampleRows.reverse (9 / 10) 100 12 = .ok refitted ∧
        Nested.Same refitted.artifact.values fitted.artifact.values ∧
        Nested.Same refitted.artifact.action_counts fitted.artifact.action_counts) ∧
      ∃ refitted, fit_q (fun _ => "") (List.replicate 12 sampleRows).flatten (9 / 10) 100 12 =
        .ok refitted ∧ Nested.Same refitted.artifact.values fitted.artifact.values := by
  rcases fit_q_of_reads (fun _ => "") configured_defaults reads_sampleRows (by decide) with
    ⟨fitted, accepted, _⟩
  rcases fit_q_order_independent accepted with ⟨permuted, repeated⟩
  rcases permuted sampleRows.reverse (List.reverse_perm _) with
    ⟨backwards, reaccepted, values, counts, _⟩
  rcases repeated 12 (by decide) with ⟨often, again, same, _⟩
  exact ⟨fitted, accepted, ⟨backwards, reaccepted, values, counts⟩, often, again, same⟩

end Router

end ForgeRL
