import ForgeRL.Scripts.Aggregate

namespace ForgeRL.Aggregate

open Library

/-!
# What has been gathered

What `aggregate_studies` has gathered is a list of records, and everything that
it remembers beside them is a function of the records: the identifiers, the
cells, the splits of the families.  Each accepted row keeps this, so it holds of
all rows of all studies.
-/

/-! ## Selections -/

theorem field?_filter {fields : JsonObject} {dropped name : String}
    (other : Text.ofString name ≠ Text.ofString dropped) :
    Json.field? (fields.filter fun entry => entry.1 ≠ Text.ofString dropped) name =
      Json.field? fields name := by
  unfold Json.field?
  rw [List.find?_filter]
  congr 2
  funext entry
  by_cases here : entry.1 = Text.ofString name
  · simp [here, other]
  · simp [here]

theorem ids_parameters (signature : Signature) {name : String}
    (other : Text.ofString name ≠ Text.ofString "seed") :
    ids signature.configuration name = ids signature.full name := by
  unfold ids get
  rw [signature.parameters, field?_filter other]

/-- Studies with the same signature have the same tasks to evaluate. -/
theorem Signature.same_evaluationKeys {signature canonical : Signature}
    (same : signature.same canonical = true) :
    signature.evaluationKeys = canonical.evaluationKeys := by
  have other : Text.ofString "evaluation_ids" ≠ Text.ofString "seed" := by decide
  unfold Signature.same at same
  simp only [Bool.and_eq_true] at same
  have configured := same.1.1.1.1
  have listed : IsList (get canonical.full "evaluation_ids") := canonical.selection.lists.2
  have hashable : ∀ id ∈ ids canonical.full "evaluation_ids", id.key?.isSome = true :=
    fun id member => canonical.selection.hashable id (List.mem_append_right _ member)
  unfold evaluationKeys
  rw [← ids_parameters signature other, ← ids_parameters canonical other]
  rw [← ids_parameters canonical other] at hashable
  unfold ids get at hashable ⊢
  unfold get at listed
  rw [← field?_filter other, ← canonical.parameters] at listed
  cases found : Json.field? canonical.configuration "evaluation_ids" with
  | none =>
    rw [found] at listed
    cases listed
  | some value =>
    rw [found] at listed hashable
    rcases Json.equal_obj configured found with ⟨first, stored, equal⟩
    rw [stored]
    cases value with
    | arr items =>
      rcases Json.equal_arr equal hashable with ⟨others, rfl, keys⟩
      exact keys
    | _ => cases listed

theorem Signature.evaluationKeys_nodup (signature : Signature) :
    signature.evaluationKeys.Nodup := by
  have distinct := signature.selection.distinct
  rw [List.map_append] at distinct
  exact (List.nodup_append.mp distinct).2.1

/-! ## What the records determine -/

def Record.evaluated (record : Record) : Prop := record.phase = .evaluation

instance : DecidablePred Record.evaluated := fun _ => inferInstanceAs (Decidable (_ = _))

/-- The records of evaluations. -/
def evaluations (records : List Record) : List Record :=
  records.filter fun record => record.evaluated

/-- An evaluation belongs to the plan. -/
structure Placed (keys : List (Option Key)) (record : Record) : Prop where
  seed : record.study_seed ∈ EXPECTED_SEEDS
  task : value record.run "task_id" ∈ keys
  policy : value record.run "policy" ∈ POLICIES.map named
  split : value record.run "split" ∈ [named "validation", named "test"]

/-- Everything that has been gathered beside the records is determined by them. -/
structure Sound (keys : List (Option Key)) (gathered : Gathered) : Prop where
  evaluation : gathered.evaluation = (evaluations gathered.full_runs).map Record.run
  ids : gathered.ids = gathered.full_runs.map Record.ident
  once : gathered.ids.Nodup
  identities : gathered.identities = (evaluations gathered.full_runs).map Record.cell
  distinct : gathered.identities.Nodup
  placed : ∀ record ∈ evaluations gathered.full_runs, Placed keys record
  splits : ∀ record ∈ gathered.full_runs, gathered.family_splits.get? (value record.run "family") =
    some (value record.run "split")
  families : ∀ record ∈ gathered.full_runs,
    gathered.task_families.get? (value record.run "task_id") = some (value record.run "family")

theorem evaluations_append (records : List Record) (record : Record) :
    evaluations (records ++ [record]) =
      evaluations records ++ if record.evaluated then [record] else [] := by
  unfold evaluations
  rw [List.filter_append]
  congr 1
  by_cases evaluated : record.evaluated
  · simp [evaluated]
  · simp [evaluated]

theorem Sound.empty (keys : List (Option Key)) : Sound keys .empty where
  evaluation := rfl
  ids := rfl
  once := List.nodup_nil
  identities := rfl
  distinct := List.nodup_nil
  placed := fun _ member => absurd member List.not_mem_nil
  splits := fun _ member => absurd member List.not_mem_nil
  families := fun _ member => absurd member List.not_mem_nil

/-! ## A row -/

theorem read_json_ok {file : File} {fields : JsonObject} (read : read_json file = .ok fields) :
    file = .json (.obj fields) := by
  unfold read_json at read
  split at read
  · cases read
  · cases read
  · cases read
    rfl
  · cases read

/-- A record is the run that a line of the index of a seed names. -/
structure Indexed (studies : Studies) (seed : ℤ) (line : Option Json) (record : Record) : Prop where
  source : record.study_seed = seed
  entry : ∃ row, readEntry line = .ok ⟨row, record.ident, record.phase⟩
  file : ∃ directory, studyOf studies seed = some directory ∧
    directory.run record.ident = .json (.obj record.run)

/-- The cells that a row adds. -/
def newCells (record : Record) : List Cell := if record.evaluated then [record.cell] else []

/-- What the checks of the split have established. -/
theorem checkPhase_ok {seed : ℤ} {config : JsonObject} {phase : Phase} {run : JsonObject}
    {ident : Text} {gathered placed : Gathered}
    (accepted : checkPhase seed config phase run gathered = .ok placed) :
    placed = { gathered with
      identities := gathered.identities ++ newCells ⟨phase, seed, ident, run⟩ } ∧
    (phase = .evaluation →
      (seed, value run "task_id", value run "policy") ∉ gathered.identities ∧
      value run "task_id" ∈ (ids config "evaluation_ids").map Json.key? ∧
      value run "policy" ∈ POLICIES.map named ∧
      value run "split" ∈ [named "validation", named "test"]) := by
  cases phase with
  | train =>
    simp only [checkPhase, bind_ok_iff, require_ok_iff] at accepted
    rcases accepted with ⟨_, _, _, _, _, _, same⟩
    cases same
    refine ⟨?_, fun impossible => by cases impossible⟩
    exact congrArg (fun identities => { gathered with identities := identities })
      (List.append_nil _).symm
  | evaluation =>
    simp only [checkPhase, bind_ok_iff, require_ok_iff] at accepted
    rcases accepted with ⟨_, split, _, _, _, ⟨task, policy, _⟩, _, fresh, same⟩
    cases same
    exact ⟨rfl, fun _ => ⟨fresh, task, policy, split⟩⟩

theorem checkFamily_ok {run : JsonObject} {gathered placed : Gathered}
    (accepted : checkFamily run gathered = .ok placed) :
    placed = { gathered with
      family_splits := gathered.family_splits.set (value run "family") (value run "split")
      task_families := gathered.task_families.set (value run "task_id") (value run "family") } ∧
    (∀ split, gathered.family_splits.get? (value run "family") = some split →
      split = value run "split") ∧
    ∀ known, gathered.task_families.get? (value run "task_id") = some known →
      known = value run "family" := by
  unfold checkFamily at accepted
  split at accepted
  · simp only [bind_ok_iff, require_ok_iff] at accepted
    rcases accepted with ⟨_, _, _, splits, _, families, same⟩
    cases same
    exact ⟨rfl, splits, families⟩
  · cases accepted

/-- A dictionary that knows a function at some keys, after the function's value
at another key has been assigned. -/
theorem set_knows {dict : Dict (Option Key) (Option Key)} {records : List Record} {run : JsonObject}
    (key assigned : JsonObject → Option Key)
    (known : ∀ record ∈ records, dict.get? (key record.run) = some (assigned record.run))
    (agrees : ∀ found, dict.get? (key run) = some found → found = assigned run) {record : Record}
    (member : record ∈ records ∨ record.run = run) :
    (dict.set (key run) (assigned run)).get? (key record.run) = some (assigned record.run) := by
  rw [Dict.get?_set]
  rcases member with earlier | now
  · split_ifs with same
    · have found := known record earlier
      rw [same] at found
      exact congrArg some (agrees _ found).symm
    · exact known record earlier
  · rw [now, if_pos rfl]

/-- What is gathered after a record has been added. -/
def Gathered.extended (gathered : Gathered) (record : Record) : Gathered :=
  { gathered with
    ids := gathered.ids ++ [record.ident]
    identities := gathered.identities ++ newCells record
    family_splits := gathered.family_splits.set (value record.run "family")
      (value record.run "split")
    task_families := gathered.task_families.set (value record.run "task_id")
      (value record.run "family") }

theorem Sound.extended {keys : List (Option Key)} {gathered : Gathered} {record : Record}
    (sound : Sound keys gathered) (new : record.ident ∉ gathered.ids)
    (evaluated : record.evaluated → record.cell ∉ gathered.identities ∧ Placed keys record)
    (splits : ∀ split, gathered.family_splits.get? (value record.run "family") = some split →
      split = value record.run "split")
    (families : ∀ known, gathered.task_families.get? (value record.run "task_id") = some known →
      known = value record.run "family") :
    Sound keys ((gathered.extended record).record record) := by
  have member {other : Record} (inside : other ∈ gathered.full_runs ++ [record]) :
      other ∈ gathered.full_runs ∨ other.run = record.run := by
    rcases List.mem_append.mp inside with earlier | now
    · exact .inl earlier
    · exact .inr (congrArg Record.run (List.mem_singleton.mp now))
  refine ⟨?_, ?_, ?_, ?_, ?_, ?_, ?_, ?_⟩
  · show (if record.evaluated then gathered.evaluation ++ [record.run] else gathered.evaluation) =
      (evaluations (gathered.full_runs ++ [record])).map Record.run
    rw [evaluations_append, List.map_append, sound.evaluation]
    split_ifs
    · rfl
    · exact (List.append_nil _).symm
  · show gathered.ids ++ [record.ident] = (gathered.full_runs ++ [record]).map Record.ident
    rw [List.map_append, sound.ids]
    rfl
  · show (gathered.ids ++ [record.ident]).Nodup
    rw [← List.concat_eq_append]
    exact .concat new sound.once
  · show gathered.identities ++ newCells record =
      (evaluations (gathered.full_runs ++ [record])).map Record.cell
    rw [evaluations_append, List.map_append, sound.identities]
    unfold newCells
    split_ifs <;> rfl
  · show (gathered.identities ++ newCells record).Nodup
    unfold newCells
    split_ifs with now
    · rw [← List.concat_eq_append]
      exact .concat (evaluated now).1 sound.distinct
    · rw [List.append_nil]
      exact sound.distinct
  · show ∀ other ∈ evaluations (gathered.full_runs ++ [record]), Placed keys other
    rw [evaluations_append]
    intro other inside
    rcases List.mem_append.mp inside with earlier | now
    · exact sound.placed other earlier
    · split_ifs at now with evaluation
      · rw [List.mem_singleton.mp now]
        exact (evaluated evaluation).2
      · exact absurd now List.not_mem_nil
  · exact fun other inside => set_knows (fun run => value run "family")
      (fun run => value run "split") sound.splits splits (member inside)
  · exact fun other inside => set_knows (fun run => value run "task_id")
      (fun run => value run "family") sound.families families (member inside)

/-- The training runs among records. -/
def trainedRuns (records : List Record) : ℕ :=
  (records.filter fun record => record.phase = .train).length

def failedRuns (records : List Record) : ℕ :=
  (records.filter fun record => record.phase = .train ∧ Failed record.run).length

theorem length_filter_singleton {α : Type} (chosen : α → Prop) [DecidablePred chosen] (item : α) :
    ([item].filter fun other => chosen other).length = if chosen item then 1 else 0 := by
  by_cases kept : chosen item
  · simp [kept]
  · simp [kept]

/-- What accepted rows add. -/
structure Added (new : List Record) (pass later : Pass) : Prop where
  full_runs : later.gathered.full_runs = pass.gathered.full_runs ++ new
  sources : later.gathered.sources = pass.gathered.sources
  canonical : later.gathered.canonical = pass.gathered.canonical
  trained : later.observed_training = pass.observed_training + trainedRuns new
  failed : later.observed_training_failures = pass.observed_training_failures + failedRuns new

section Rows

variable {studies : Studies} {seed : ℤ} {directory : Directory} {config : JsonObject}
  {keys : List (Option Key)}

theorem addRow_sound {line : Option Json} {pass later : Pass} (sound : Sound keys pass.gathered)
    (declared : seed ∈ EXPECTED_SEEDS) (found : studyOf studies seed = some directory)
    (selected : (ids config "evaluation_ids").map Json.key? = keys)
    (accepted : addRow seed config directory line pass = .ok later) :
    ∃ record, Indexed studies seed line record ∧ Added [record] pass later ∧
      Sound keys later.gathered := by
  simp only [addRow, bind_ok_iff, require_ok_iff] at accepted
  rcases accepted with ⟨entry, read, _, new, run, ran, placed, phased, kept, familiar, same⟩
  cases same
  simp only [readRun, bind_ok_iff] at ran
  rcases ran with ⟨_, opened, _, _, _, _, _, _, _, _, same⟩
  cases same
  rcases @checkPhase_ok _ _ _ _ entry.ident _ _ phased with ⟨rfl, evaluated⟩
  rcases checkFamily_ok familiar with ⟨rfl, splits, families⟩
  let record : Record := ⟨entry.phase, seed, entry.ident, run⟩
  refine ⟨record, ⟨rfl, ⟨entry.row, read⟩, directory, found, read_json_ok opened⟩,
    ⟨rfl, rfl, rfl, ?_, ?_⟩, ?_⟩
  · exact congrArg (pass.observed_training + ·)
      (length_filter_singleton (fun record : Record => record.phase = .train) record).symm
  · exact congrArg (pass.observed_training_failures + ·)
      (length_filter_singleton (fun record : Record => record.phase = .train ∧ Failed record.run)
        record).symm
  · refine @Sound.extended _ _ record sound new ?_ splits families
    intro evaluation
    rcases evaluated evaluation with ⟨fresh, task, policy, split⟩
    exact ⟨fresh, ⟨declared, selected ▸ task, policy, split⟩⟩

/-! ## All rows of a study -/

theorem Added.refl (pass : Pass) : Added [] pass pass where
  full_runs := (List.append_nil _).symm
  sources := rfl
  canonical := rfl
  trained := rfl
  failed := rfl

theorem Added.trans {first second : List Record} {pass middle later : Pass}
    (before : Added first pass middle) (after : Added second middle later) :
    Added (first ++ second) pass later where
  full_runs := by rw [after.full_runs, before.full_runs, List.append_assoc]
  sources := after.sources.trans before.sources
  canonical := after.canonical.trans before.canonical
  trained := by
    rw [after.trained, before.trained]
    unfold trainedRuns
    rw [List.filter_append, List.length_append, Nat.add_assoc]
  failed := by
    rw [after.failed, before.failed]
    unfold failedRuns
    rw [List.filter_append, List.length_append, Nat.add_assoc]

theorem addRows_sound {lines : List (Option Json)} {pass later : Pass}
    (sound : Sound keys pass.gathered) (declared : seed ∈ EXPECTED_SEEDS)
    (found : studyOf studies seed = some directory)
    (selected : (ids config "evaluation_ids").map Json.key? = keys)
    (accepted : addRows seed config directory lines pass = .ok later) :
    ∃ new, List.Forall₂ (Indexed studies seed) lines new ∧ Added new pass later ∧
      Sound keys later.gathered := by
  induction lines generalizing pass with
  | nil =>
    cases accepted
    exact ⟨[], .nil, .refl _, sound⟩
  | cons line lines ih =>
    simp only [addRows, bind_ok_iff] at accepted
    rcases accepted with ⟨middle, row, rows⟩
    rcases addRow_sound sound declared found selected row with ⟨record, named, added, kept⟩
    rcases ih kept rows with ⟨new, indexed, further, final⟩
    exact ⟨record :: new, .cons named indexed, added.trans further, final⟩

end Rows

/-! ## A study -/

/-- The keys of the tasks that the canonical configuration evaluates. -/
def Gathered.keys (gathered : Gathered) : List (Option Key) :=
  match gathered.canonical with
  | none => []
  | some canonical => canonical.evaluationKeys

/-- The lines of the index of a seed. -/
def indexOf (studies : Studies) (seed : ℤ) : List (Option Json) :=
  match studyOf studies seed with
  | none => []
  | some directory =>
    match directory.index with
    | .lines rows => rows
    | _ => []

/-- The training counters of a manifest are the observed ones. -/
def Consistent (manifest : JsonObject) (observed failed : ℕ) : Prop :=
  Json.differs (getD manifest "training_completed" (.int 0)) (.int observed) = false ∧
    Json.differs (getD manifest "training_failures" (.int 0)) (.int failed) = false

/-- The study of a seed has an index and a manifest that calls it complete, with
the training counters of the records of the seed. -/
def SourceComplete (studies : Studies) (seed : ℤ) (records : List Record) : Prop :=
  ∃ directory manifest, studyOf studies seed = some directory ∧
    directory.manifest = .json (.obj manifest) ∧ directory.index ≠ .absent ∧
    value manifest "status" = named "complete" ∧
    Consistent manifest (trainedRuns records) (failedRuns records)

/-- What a study adds. -/
structure Joined (studies : Studies) (seed : ℤ) (gathered later : Gathered) : Prop where
  added : ∃ new source, List.Forall₂ (Indexed studies seed) (indexOf studies seed) new ∧
    later.full_runs = gathered.full_runs ++ new ∧
    later.sources = gathered.sources ++ [source] ∧ source.seed = seed ∧
    (source.Complete ↔ SourceComplete studies seed new)
  sound : Sound later.keys later

theorem Sound.mono {keys others : List (Option Key)} {gathered : Gathered}
    (sound : Sound keys gathered) (within : ∀ key ∈ keys, key ∈ others) :
    Sound others gathered where
  evaluation := sound.evaluation
  ids := sound.ids
  once := sound.once
  identities := sound.identities
  distinct := sound.distinct
  placed := fun record member =>
    { seed := (sound.placed record member).seed
      task := within _ (sound.placed record member).task
      policy := (sound.placed record member).policy
      split := (sound.placed record member).split }
  splits := sound.splits
  families := sound.families

/-- Comparing a signature changes nothing but the canonical one, if there was
none. -/
theorem requireCanonical_ok {signature : Signature} {gathered compared : Gathered}
    (sound : Sound gathered.keys gathered)
    (accepted : requireCanonical signature gathered = .ok compared) :
    compared.keys = signature.evaluationKeys ∧ Sound compared.keys compared ∧
      compared.full_runs = gathered.full_runs ∧ compared.sources = gathered.sources := by
  unfold requireCanonical at accepted
  split at accepted
  next none =>
    cases accepted
    have renewed : Sound signature.evaluationKeys { gathered with canonical := some signature } :=
      { sound.mono (fun key member => by
          unfold Gathered.keys at member
          rw [none] at member
          exact absurd member List.not_mem_nil) with }
    exact ⟨rfl, renewed, rfl, rfl⟩
  next canonical known =>
    simp only [bind_ok_iff, require_ok_iff] at accepted
    rcases accepted with ⟨_, same, unchanged⟩
    cases unchanged
    refine ⟨?_, sound, rfl, rfl⟩
    unfold Gathered.keys
    rw [known]
    exact (Signature.same_evaluationKeys same).symm

theorem reconcile_seed (manifest : JsonObject) (seed : ℤ) (status : Json) (observed failed : ℕ) :
    (reconcile_training_counters manifest seed status observed failed).seed = seed := by
  unfold reconcile_training_counters
  dsimp only
  split_ifs <;> rfl

theorem mismatches_isEmpty_iff (manifest : JsonObject) (observed failed : ℕ) :
    ([Mismatch.mk "training_completed" (getD manifest "training_completed" (.int 0)) observed,
        Mismatch.mk "training_failures" (getD manifest "training_failures" (.int 0)) failed].filter
      fun mismatch => Json.differs mismatch.manifest (.int mismatch.observed)).isEmpty = true ↔
      Consistent manifest observed failed := by
  rw [List.isEmpty_iff, List.filter_eq_nil_iff]
  simp only [List.forall_mem_cons, List.not_mem_nil, false_implies, implies_true, and_true,
    Bool.not_eq_true]
  rfl

/-- A source stays complete only if its counters are consistent. -/
theorem reconcile_complete_iff (manifest : JsonObject) (seed : ℤ) (status : Json)
    (observed failed : ℕ) :
    (reconcile_training_counters manifest seed status observed failed).Complete ↔
      status.key? = named "complete" ∧ Consistent manifest observed failed := by
  have consistent := mismatches_isEmpty_iff manifest observed failed
  unfold reconcile_training_counters
  dsimp only
  split_ifs with running empty
  · have different : status.key? ≠ named "complete" := by
      rw [running.2]
      decide
    exact iff_of_false different fun complete => different complete.1
  · exact ⟨fun complete => ⟨complete, consistent.mp empty⟩, And.left⟩
  · have partially : ¬ (Json.string "partial").key? = named "complete" := by decide
    exact iff_of_false partially fun complete => empty (consistent.mpr complete.2)

section Study

variable {env : Environment} {studies : Studies} {seed : ℤ} {gathered later : Gathered}

theorem addSource_sound {keys : List (Option Key)} (sound : Sound keys gathered)
    (source : Source) : Sound keys (gathered.addSource source) :=
  { sound with }

theorem getD_status (manifest : JsonObject) :
    (getD manifest "status" (Json.string "partial")).key? = named "complete" ↔
      value manifest "status" = named "complete" := by
  unfold getD value get
  cases Json.field? manifest "status" with
  | none => decide
  | some status => rfl

theorem sourceComplete_iff {directory : Directory} {manifest : JsonObject}
    (found : studyOf studies seed = some directory)
    (opened : directory.manifest = .json (.obj manifest)) {records : List Record} :
    SourceComplete studies seed records ↔
      directory.index ≠ .absent ∧ value manifest "status" = named "complete" ∧
        Consistent manifest (trainedRuns records) (failedRuns records) := by
  unfold SourceComplete
  constructor
  · rintro ⟨other, fields, same, read, complete⟩
    cases found.symm.trans same
    cases opened.symm.trans read
    exact complete
  · exact fun complete => ⟨directory, manifest, found, opened, complete⟩

theorem addIndex_joined {config manifest : JsonObject} {directory : Directory}
    (sound : Sound gathered.keys gathered) (declared : seed ∈ EXPECTED_SEEDS)
    (found : studyOf studies seed = some directory)
    (opened : directory.manifest = .json (.obj manifest))
    (selected : (ids config "evaluation_ids").map Json.key? = gathered.keys)
    (accepted : addIndex seed config manifest directory gathered = .ok later) :
    Joined studies seed gathered later := by
  unfold addIndex at accepted
  split at accepted
  next absent =>
    cases accepted
    refine ⟨⟨[], _, ?_, (List.append_nil _).symm, rfl, reconcile_seed .., ?_⟩,
      addSource_sound sound _⟩
    · unfold indexOf
      rw [found]
      simp only [absent]
      exact .nil
    · rw [reconcile_complete_iff, sourceComplete_iff found opened]
      have partially : ¬ (Json.string "partial").key? = named "complete" := by decide
      exact iff_of_false (fun complete => partially complete.1) fun complete => complete.1 absent
  next => cases accepted
  next rows present =>
    simp only [bind_ok_iff] at accepted
    rcases accepted with ⟨pass, ran, same⟩
    cases same
    rcases addRows_sound sound declared found selected ran with ⟨new, indexed, added, kept⟩
    have keys : pass.gathered.keys = gathered.keys := by
      unfold Gathered.keys
      rw [added.canonical]
    have trained : pass.observed_training = trainedRuns new := by
      rw [added.trained, Nat.zero_add]
    have failed : pass.observed_training_failures = failedRuns new := by
      rw [added.failed, Nat.zero_add]
    refine ⟨⟨new, reconcile_training_counters manifest seed
        (getD manifest "status" (Json.string "partial")) pass.observed_training
        pass.observed_training_failures,
      ?_, added.full_runs, ?_, reconcile_seed .., ?_⟩, ?_⟩
    · unfold indexOf
      rw [found]
      simp only [present]
      exact indexed
    · exact congrArg (fun sources => sources ++ [_]) added.sources
    · rw [reconcile_complete_iff, sourceComplete_iff found opened, getD_status, trained, failed]
      exact ⟨fun complete => ⟨by rw [present]; exact Index.noConfusion, complete⟩, And.right⟩
    · exact addSource_sound (keys ▸ kept) _

theorem addStudy_joined (sound : Sound gathered.keys gathered) (declared : seed ∈ EXPECTED_SEEDS)
    (accepted : addStudy env studies seed gathered = .ok later) :
    Joined studies seed gathered later := by
  unfold addStudy at accepted
  split at accepted
  next missing =>
    cases accepted
    refine ⟨⟨[], _, ?_, (List.append_nil _).symm, rfl, rfl, ?_⟩, addSource_sound sound _⟩
    · unfold indexOf
      rw [missing]
      exact .nil
    · have different : ¬ (Json.string "missing").key? = named "complete" := by decide
      apply iff_of_false different
      rintro ⟨directory, _, found, _⟩
      cases missing.symm.trans found
  next directory found =>
    simp only [addManifest, bind_ok_iff] at accepted
    rcases accepted with ⟨manifest, read, signature, _, _, _, compared, canonical, _, _, indexed⟩
    rcases requireCanonical_ok sound canonical with ⟨keys, kept, full_runs, sources⟩
    rcases addIndex_joined kept declared found (read_json_ok read) keys.symm indexed with
      ⟨⟨new, source, added, runs, rest⟩, renewed⟩
    rw [full_runs] at runs
    rw [sources] at rest
    exact ⟨⟨new, source, added, runs, rest⟩, renewed⟩

end Study

/-! ## All studies -/

/-- The lines of all indexes, in the order of the seeds. -/
def indexedLines (studies : Studies) (seeds : List ℤ) : List (ℤ × Option Json) :=
  seeds.flatMap fun seed => (indexOf studies seed).map fun line => (seed, line)

def recordsOf (records : List Record) (seed : ℤ) : List Record :=
  records.filter fun record => record.study_seed = seed

/-- Each record is the run of the line at its place. -/
def AllIndexed (studies : Studies) (seeds : List ℤ) (records : List Record) : Prop :=
  List.Forall₂ (fun line record => Indexed studies line.1 line.2 record)
    (indexedLines studies seeds) records

/-- What has been gathered from the studies of some seeds. -/
structure Followed (studies : Studies) (seen : List ℤ) (gathered : Gathered) : Prop where
  seeds : gathered.sources.map Source.seed = seen
  indexed : AllIndexed studies seen gathered.full_runs
  complete : ∀ source ∈ gathered.sources, source.Complete ↔
    SourceComplete studies source.seed (recordsOf gathered.full_runs source.seed)
  sound : Sound gathered.keys gathered

theorem Followed.empty (studies : Studies) : Followed studies [] .empty where
  seeds := rfl
  indexed := .nil
  complete := fun _ member => absurd member List.not_mem_nil
  sound := .empty _

theorem AllIndexed.study_seed_mem {studies : Studies} {seeds : List ℤ} {records : List Record}
    (indexed : AllIndexed studies seeds records) {record : Record} (member : record ∈ records) :
    record.study_seed ∈ seeds := by
  rcases exists_related indexed member with ⟨line, inside, named⟩
  rcases List.mem_flatMap.mp inside with ⟨seed, known, among⟩
  rcases List.mem_map.mp among with ⟨row, _, same⟩
  rw [named.source, ← same]
  exact known

section Studies

variable {env : Environment} {studies : Studies}

theorem Followed.step {seen : List ℤ} {seed : ℤ} {gathered later : Gathered}
    (followed : Followed studies seen gathered) (fresh : seed ∉ seen)
    (declared : seed ∈ EXPECTED_SEEDS) (accepted : addStudy env studies seed gathered = .ok later) :
    Followed studies (seen ++ [seed]) later := by
  rcases addStudy_joined followed.sound declared accepted with
    ⟨⟨new, source, indexed, full_runs, sources, named, complete⟩, sound⟩
  have old (record : Record) (member : record ∈ gathered.full_runs) : record.study_seed ≠ seed :=
    fun same => fresh (same ▸ followed.indexed.study_seed_mem member)
  have renewed (record : Record) (member : record ∈ new) : record.study_seed = seed := by
    rcases exists_related indexed member with ⟨line, _, named⟩
    exact named.source
  refine ⟨?_, ?_, ?_, sound⟩
  · rw [sources, List.map_append, followed.seeds]
    exact congrArg (fun name => seen ++ [name]) named
  · unfold AllIndexed indexedLines
    rw [full_runs, List.flatMap_append, List.flatMap_singleton]
    apply List.rel_append followed.indexed
    exact List.forall₂_map_left_iff.mpr indexed
  · rw [sources, full_runs]
    intro other member
    unfold recordsOf
    rw [List.filter_append]
    rcases List.mem_append.mp member with earlier | now
    · have known : other.seed ∈ seen := followed.seeds ▸ List.mem_map_of_mem earlier
      have none : new.filter (fun record => record.study_seed = other.seed) = [] := by
        apply List.filter_eq_nil_iff.mpr
        intro record inside same
        exact fresh (renewed record inside ▸ of_decide_eq_true same ▸ known)
      rw [none, List.append_nil]
      exact followed.complete other earlier
    · rw [List.mem_singleton.mp now, named]
      have none : gathered.full_runs.filter (fun record => record.study_seed = seed) = [] := by
        apply List.filter_eq_nil_iff.mpr
        exact fun record inside same => old record inside (of_decide_eq_true same)
      have all : new.filter (fun record => record.study_seed = seed) = new := by
        apply List.filter_eq_self.mpr
        exact fun record inside => decide_eq_true (renewed record inside)
      rw [none, all]
      exact complete

theorem Followed.run {seeds seen : List ℤ} {gathered later : Gathered}
    (followed : Followed studies seen gathered) (distinct : (seen ++ seeds).Nodup)
    (declared : ∀ seed ∈ seeds, seed ∈ EXPECTED_SEEDS)
    (accepted : addStudies env studies seeds gathered = .ok later) :
    Followed studies (seen ++ seeds) later := by
  induction seeds generalizing seen gathered with
  | nil =>
    cases accepted
    rw [List.append_nil]
    exact followed
  | cons seed seeds ih =>
    simp only [addStudies, bind_ok_iff] at accepted
    rcases accepted with ⟨middle, first, rest⟩
    have fresh : seed ∉ seen := by
      intro known
      exact (List.nodup_append.mp distinct).2.2 seed known seed List.mem_cons_self rfl
    have stepped := followed.step fresh (declared seed List.mem_cons_self) first
    rw [List.append_cons] at distinct ⊢
    exact ih stepped distinct (fun other member => declared other (List.mem_cons_of_mem _ member))
      rest

end Studies

end ForgeRL.Aggregate
