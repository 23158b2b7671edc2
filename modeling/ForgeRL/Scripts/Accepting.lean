import ForgeRL.Scripts.Partition

namespace ForgeRL.Aggregate

open Library

/-!
# What an aggregation accepts

The checks of `aggregate_studies` compare files with each other and runs with
what was read before.  When the runs agree with one classification of the tasks,
each run has its own identifier and each evaluation its own cell, no check fails,
and what is gathered is known in advance.
-/

/-! ## A row -/

/-- The families of the tasks and the splits of the families. -/
structure Classes where
  family : Option Key → Option Key
  split : Option Key → Option Key

/-- A run with the family of its task and the split of its family. -/
structure Classes.Holds (classes : Classes) (run : JsonObject) : Prop where
  named : ∃ family, get run "family" = .str family ∧ family ≠ []
  family : value run "family" = classes.family (value run "task_id")
  split : value run "split" = classes.split (value run "family")

/-- What has been gathered of the classes. -/
structure Classes.Knows (classes : Classes) (gathered : Gathered) : Prop where
  splits : ∀ family split, gathered.family_splits.get? family = some split →
    split = classes.split family
  families : ∀ task family, gathered.task_families.get? task = some family →
    family = classes.family task

/-- The file that a line of the index names can be read. -/
def Readable (directory : Directory) (line : Option Json) (record : Record) : Prop :=
  ∃ row, readEntry line = .ok ⟨row, record.ident, record.phase⟩ ∧
    readRun directory ⟨row, record.ident, record.phase⟩ = .ok record.run

/-- A run of the training or of the evaluation that a configuration declares. -/
inductive Declared (config : JsonObject) (record : Record) : Prop where
  | train (phase : record.phase = .train)
      (present : (Json.field? record.run "task_id").isSome = true)
      (split : value record.run "split" = named "train")
      (task : value record.run "task_id" ∈ (ids config "training_ids").map Json.key?)
      (policy : value record.run "policy" = named "exploration")
  | evaluation (phase : record.phase = .evaluation)
      (present : (Json.field? record.run "task_id").isSome = true)
      (split : value record.run "split" ∈ [named "validation", named "test"])
      (task : value record.run "task_id" ∈ (ids config "evaluation_ids").map Json.key?)
      (policy : value record.run "policy" ∈ POLICIES.map named)
      (seed : Json.differs (get record.run "seed") (.int record.study_seed) = false)

theorem checkPhase_of_declared {config : JsonObject} {record : Record} {gathered : Gathered}
    (declared : Declared config record)
    (fresh : record.evaluated → record.cell ∉ gathered.identities) :
    checkPhase record.study_seed config record.phase record.run gathered =
      .ok { gathered with identities := gathered.identities ++ newCells record } := by
  cases declared with
  | train phase present split task policy =>
    have none : newCells record = [] := if_neg fun evaluated => by
      rw [Record.evaluated, phase] at evaluated
      cases evaluated
    rw [phase, none, List.append_nil]
    simp only [checkPhase, bind_ok_iff, require_ok_iff]
    exact ⟨(), split, (), present, (), ⟨task, policy⟩, trivial⟩
  | evaluation phase present split task policy seed =>
    have one : newCells record = [record.cell] := if_pos phase
    rw [phase, one]
    simp only [checkPhase, bind_ok_iff, require_ok_iff]
    exact ⟨(), split, (), present, (), ⟨task, policy, seed⟩, (), fresh phase, rfl⟩

theorem checkFamily_of_holds {classes : Classes} {run : JsonObject} {gathered : Gathered}
    (holds : classes.Holds run) (knows : classes.Knows gathered) :
    checkFamily run gathered = .ok { gathered with
      family_splits := gathered.family_splits.set (value run "family") (value run "split")
      task_families := gathered.task_families.set (value run "task_id") (value run "family") } := by
  rcases holds.named with ⟨family, written, nonempty⟩
  unfold checkFamily
  simp only [written, bind_ok_iff, require_ok_iff]
  refine ⟨(), nonempty, (), ?_, (), ?_, trivial⟩
  · intro split known
    rw [knows.splits _ _ known, holds.split]
  · intro known found
    rw [knows.families _ _ found, holds.family]

/-- What is gathered after a row has been accepted. -/
def Gathered.accept (gathered : Gathered) (record : Record) : Gathered :=
  (gathered.extended record).record record

def Pass.accept (pass : Pass) (record : Record) : Pass where
  gathered := pass.gathered.accept record
  observed_training := pass.observed_training + if record.phase = .train then 1 else 0
  observed_training_failures := pass.observed_training_failures +
    if record.phase = .train ∧ Failed record.run then 1 else 0

/-- A row that no check refuses. -/
structure Acceptable (classes : Classes) (config : JsonObject) (seed : ℤ) (record : Record) :
    Prop where
  seed : record.study_seed = seed
  declared : Declared config record
  holds : classes.Holds record.run

section Rows

variable {classes : Classes} {config : JsonObject} {seed : ℤ} {directory : Directory}

theorem addRow_accepts {line : Option Json} {record : Record} {pass : Pass}
    (readable : Readable directory line record) (acceptable : Acceptable classes config seed record)
    (knows : classes.Knows pass.gathered) (fresh : record.ident ∉ pass.gathered.ids)
    (cell : record.evaluated → record.cell ∉ pass.gathered.identities) :
    addRow seed config directory line pass = .ok (pass.accept record) := by
  rcases readable with ⟨row, read, ran⟩
  have placed := @checkPhase_of_declared config record
    { pass.gathered with ids := pass.gathered.ids ++ [record.ident] } acceptable.declared cell
  rw [acceptable.seed] at placed
  simp only [addRow, bind_ok_iff, require_ok_iff]
  refine ⟨_, read, (), fresh, _, ran, _, placed, _,
    checkFamily_of_holds acceptable.holds ⟨knows.splits, knows.families⟩, ?_⟩
  rw [← acceptable.seed]
  rfl

/-- The classes are still known after a run that has them. -/
theorem Classes.Knows.accept {gathered : Gathered} {record : Record}
    (knows : classes.Knows gathered) (holds : classes.Holds record.run) :
    classes.Knows (gathered.accept record) where
  splits := by
    intro family split found
    have assigned : (gathered.family_splits.set (value record.run "family")
      (value record.run "split")).get? family = some split := found
    rw [Dict.get?_set] at assigned
    split_ifs at assigned with same
    · rw [same, ← holds.split]
      exact (Option.some.inj assigned).symm
    · exact knows.splits family split assigned
  families := by
    intro task family found
    have assigned : (gathered.task_families.set (value record.run "task_id")
      (value record.run "family")).get? task = some family := found
    rw [Dict.get?_set] at assigned
    split_ifs at assigned with same
    · rw [same, ← holds.family]
      exact (Option.some.inj assigned).symm
    · exact knows.families task family assigned

/-- The identifiers and the cells that have been met, before those of some
records. -/
structure Separate (gathered : Gathered) (records : List Record) : Prop where
  ids : (gathered.ids ++ records.map Record.ident).Nodup
  cells : (gathered.identities ++ (evaluations records).map Record.cell).Nodup

theorem evaluations_cells (record : Record) (records : List Record) :
    (evaluations (record :: records)).map Record.cell =
      newCells record ++ (evaluations records).map Record.cell := by
  rw [evaluations, newCells, List.filter_cons]
  by_cases evaluated : record.evaluated
  · rw [if_pos (decide_eq_true evaluated), if_pos evaluated]
    rfl
  · rw [if_neg (by rwa [decide_eq_true_eq]), if_neg evaluated]
    rfl

theorem Separate.accept {gathered : Gathered} {record : Record} {records : List Record}
    (separate : Separate gathered (record :: records)) :
    Separate (gathered.accept record) records where
  ids := by
    show ((gathered.ids ++ [record.ident]) ++ records.map Record.ident).Nodup
    rw [List.append_assoc]
    exact separate.ids
  cells := by
    have cells := separate.cells
    rw [evaluations_cells, ← List.append_assoc] at cells
    exact cells

theorem Separate.fresh {gathered : Gathered} {record : Record} {records : List Record}
    (separate : Separate gathered (record :: records)) :
    record.ident ∉ gathered.ids ∧ (record.evaluated → record.cell ∉ gathered.identities) := by
  constructor
  · intro met
    exact (List.nodup_append.mp separate.ids).2.2 _ met _ List.mem_cons_self rfl
  · intro evaluated met
    have cells := separate.cells
    rw [evaluations_cells, newCells, if_pos evaluated] at cells
    exact (List.nodup_append.mp cells).2.2 _ met _ List.mem_cons_self rfl

/-- All rows of an index are accepted. -/
theorem addRows_accepts {lines : List (Option Json)} {records : List Record} {pass : Pass}
    (readable : List.Forall₂ (Readable directory) lines records)
    (acceptable : ∀ record ∈ records, Acceptable classes config seed record)
    (knows : classes.Knows pass.gathered) (separate : Separate pass.gathered records) :
    addRows seed config directory lines pass = .ok (records.foldl Pass.accept pass) ∧
      classes.Knows (records.foldl Pass.accept pass).gathered := by
  induction readable generalizing pass with
  | nil => exact ⟨rfl, knows⟩
  | cons first rest ih =>
    next line record lines records =>
    have now := acceptable record List.mem_cons_self
    have added := addRow_accepts first now knows separate.fresh.1 separate.fresh.2
    rcases @ih (pass.accept record)
      (fun other member => acceptable other (List.mem_cons_of_mem record member))
      (knows.accept now.holds) separate.accept with ⟨later, known⟩
    refine ⟨?_, known⟩
    simp only [addRows, bind_ok_iff]
    exact ⟨_, added, later⟩

end Rows

/-- What accepted rows leave behind. -/
structure Accepted (records : List Record) (pass later : Pass) : Prop where
  added : Added records pass later
  ids : later.gathered.ids = pass.gathered.ids ++ records.map Record.ident
  identities : later.gathered.identities =
    pass.gathered.identities ++ (evaluations records).map Record.cell
  evaluation : later.gathered.evaluation =
    pass.gathered.evaluation ++ (evaluations records).map Record.run

theorem accepted_one (pass : Pass) (record : Record) :
    Added [record] pass (pass.accept record) where
  full_runs := rfl
  sources := rfl
  canonical := rfl
  trained := congrArg (pass.observed_training + ·)
    (length_filter_singleton (fun record : Record => record.phase = .train) record).symm
  failed := congrArg (pass.observed_training_failures + ·)
    (length_filter_singleton (fun record : Record => record.phase = .train ∧ Failed record.run)
      record).symm

theorem evaluations_runs (record : Record) (records : List Record) :
    (evaluations (record :: records)).map Record.run =
      (if record.phase = .evaluation then [record.run] else []) ++
        (evaluations records).map Record.run := by
  rw [evaluations, List.filter_cons]
  by_cases evaluated : record.evaluated
  · have phase : record.phase = .evaluation := evaluated
    rw [if_pos (decide_eq_true evaluated), if_pos phase]
    rfl
  · have phase : ¬ record.phase = .evaluation := evaluated
    rw [if_neg (fun held => evaluated (of_decide_eq_true held)), if_neg phase]
    rfl

theorem accepted_all (records : List Record) (pass : Pass) :
    Accepted records pass (records.foldl Pass.accept pass) := by
  induction records generalizing pass with
  | nil =>
    exact ⟨.refl pass, (List.append_nil _).symm, (List.append_nil _).symm,
      (List.append_nil _).symm⟩
  | cons record records ih =>
    have later := ih (pass.accept record)
    refine ⟨.trans (accepted_one pass record) later.added, ?_, ?_, ?_⟩
    · rw [List.foldl_cons, later.ids, List.map_cons]
      exact List.append_assoc pass.gathered.ids [record.ident] _
    · rw [List.foldl_cons, later.identities, evaluations_cells]
      exact List.append_assoc pass.gathered.identities _ _
    · rw [List.foldl_cons, later.evaluation, evaluations_runs, ← List.append_assoc]
      apply congrArg (fun runs => runs ++ (evaluations records).map Record.run)
      unfold Pass.accept Gathered.accept Gathered.record
      by_cases evaluated : record.phase = .evaluation
      · simp only [if_pos evaluated]
        rfl
      · simp only [if_neg evaluated, List.append_nil]
        rfl

/-! ## A study -/

/-- The evidence of a seed, with what the checks find in it. -/
structure Submission where
  directory : Directory
  manifest : JsonObject
  signature : Signature
  records : List Record

/-- The source that a report names for a submission. -/
def Submission.source (seed : ℤ) (submission : Submission) : Source :=
  match submission.directory.index with
  | .absent =>
    reconcile_training_counters submission.manifest seed (Json.string "partial") 0 0
  | _ =>
    reconcile_training_counters submission.manifest seed
      (getD submission.manifest "status" (Json.string "partial"))
      (trainedRuns submission.records) (failedRuns submission.records)

/-- A submission that no check refuses. -/
structure Submission.Sound (env : Environment) (classes : Classes) (seed : ℤ)
    (submission : Submission) : Prop where
  manifest : submission.directory.manifest = .json (.obj submission.manifest)
  signature : configurationSignature env submission.manifest = .ok submission.signature
  seeded : Json.differs (get submission.signature.full "seed") (.int seed) = false
  controller : checkController env submission.directory submission.manifest = .ok ()
  index : submission.directory.index = .absent ∧ submission.records = [] ∨
    ∃ lines, submission.directory.index = .lines lines ∧
      List.Forall₂ (Readable submission.directory) lines submission.records
  acceptable : ∀ record ∈ submission.records,
    Acceptable classes submission.signature.full seed record

def sourceOf (seed : ℤ) : Option Submission → Source
  | none => ⟨seed, Json.string "missing", none⟩
  | some submission => submission.source seed

def recordsIn (submitted : Option Submission) : List Record :=
  (submitted.map Submission.records).getD []

/-- What the studies of some seeds add to what has been gathered. -/
structure Entered (sources : List Source) (signatures : List Signature) (records : List Record)
    (gathered later : Gathered) : Prop where
  canonical : later.canonical = gathered.canonical.or signatures.head?
  sources : later.sources = gathered.sources ++ sources
  full_runs : later.full_runs = gathered.full_runs ++ records
  ids : later.ids = gathered.ids ++ records.map Record.ident
  identities : later.identities = gathered.identities ++ (evaluations records).map Record.cell
  evaluation : later.evaluation = gathered.evaluation ++ (evaluations records).map Record.run

/-- The signatures are the same as the canonical one, if there is one. -/
def Comparable (gathered : Gathered) (signatures : List Signature) : Prop :=
  ∀ signature ∈ signatures, ∀ canonical, gathered.canonical.or signatures.head? = some canonical →
    signature.same canonical = true

section Studies

variable {env : Environment} {classes : Classes} {seed : ℤ} {studies : Studies}
  {gathered : Gathered}

theorem requireCanonical_accepts {signature : Signature}
    (comparable : Comparable gathered [signature]) :
    requireCanonical signature gathered =
      .ok { gathered with canonical := gathered.canonical.or (some signature) } := by
  unfold requireCanonical
  cases known : gathered.canonical with
  | none => rfl
  | some canonical =>
    have same : signature.same canonical = true :=
      comparable signature List.mem_cons_self canonical (by rw [known]; rfl)
    simp only [bind_ok_iff, require_ok_iff]
    refine ⟨(), same, ?_⟩
    exact congrArg Except.ok (congrArg (fun held => { gathered with canonical := held }) known)

theorem addIndex_accepts {submission : Submission} (sound : submission.Sound env classes seed)
    (knows : classes.Knows gathered) (separate : Separate gathered submission.records) :
    ∃ later, addIndex seed submission.signature.full submission.manifest submission.directory
        gathered = .ok later ∧ classes.Knows later ∧ later.canonical = gathered.canonical ∧
      Entered [submission.source seed] [] submission.records gathered later := by
  unfold addIndex Submission.source
  rcases sound.index with ⟨absent, none⟩ | ⟨lines, present, readable⟩
  · rw [absent, none]
    refine ⟨_, rfl, ⟨knows.splits, knows.families⟩, rfl, ⟨?_, rfl, ?_, ?_, ?_, ?_⟩⟩
    · exact (Option.or_none).symm
    all_goals exact (List.append_nil _).symm
  · rcases @addRows_accepts classes _ seed _ lines _ ⟨gathered, 0, 0⟩ readable sound.acceptable
      knows separate with ⟨added, known⟩
    have accepted := accepted_all submission.records ⟨gathered, 0, 0⟩
    have trained := accepted.added.trained
    have failed := accepted.added.failed
    rw [Nat.zero_add] at trained failed
    rw [present]
    simp only [bind_ok_iff]
    refine ⟨_, ⟨_, added, rfl⟩, ⟨known.splits, known.families⟩, accepted.added.canonical, ?_⟩
    refine ⟨?_, ?_, accepted.added.full_runs, accepted.ids, accepted.identities,
      accepted.evaluation⟩
    · exact accepted.added.canonical.trans Option.or_none.symm
    · rw [trained, failed]
      exact congrArg (fun sources => sources ++ [_]) accepted.added.sources

theorem addStudy_accepts {submitted : Option Submission}
    (found : studyOf studies seed = submitted.map Submission.directory)
    (sound : ∀ submission ∈ submitted, submission.Sound env classes seed)
    (comparable : Comparable gathered (submitted.map Submission.signature).toList)
    (knows : classes.Knows gathered) (separate : Separate gathered (recordsIn submitted)) :
    ∃ later, addStudy env studies seed gathered = .ok later ∧ classes.Knows later ∧
      Entered [sourceOf seed submitted] (submitted.map Submission.signature).toList
        (recordsIn submitted) gathered later := by
  unfold addStudy
  cases submitted with
  | none =>
    rw [found]
    refine ⟨_, rfl, ⟨knows.splits, knows.families⟩, ⟨?_, rfl, ?_, ?_, ?_, ?_⟩⟩
    · exact Option.or_none.symm
    all_goals exact (List.append_nil _).symm
  | some submission =>
    have accepted := sound submission rfl
    rw [found]
    simp only [Option.map_some, addManifest, bind_ok_iff, require_ok_iff]
    have opened : read_json submission.directory.manifest = .ok submission.manifest := by
      rw [accepted.manifest]
      rfl
    rcases @addIndex_accepts env classes seed { gathered with
        canonical := gathered.canonical.or (some submission.signature) } submission accepted
      ⟨knows.splits, knows.families⟩ ⟨separate.ids, separate.cells⟩ with
      ⟨later, added, known, canonical, entered⟩
    refine ⟨later, ⟨_, opened, _, accepted.signature, (), accepted.seeded, _,
      requireCanonical_accepts comparable, (), accepted.controller, added⟩, known, ?_⟩
    exact ⟨canonical, entered.sources, entered.full_runs, entered.ids, entered.identities,
      entered.evaluation⟩

end Studies

/-! ## All studies -/

theorem evaluations_append_all (first second : List Record) :
    evaluations (first ++ second) = evaluations first ++ evaluations second :=
  List.filter_append first second

theorem Separate.split {gathered : Gathered} {first second : List Record}
    (separate : Separate gathered (first ++ second)) : Separate gathered first where
  ids := by
    have ids := separate.ids
    rw [List.map_append, ← List.append_assoc] at ids
    exact (List.nodup_append.mp ids).1
  cells := by
    have cells := separate.cells
    rw [evaluations_append_all, List.map_append, ← List.append_assoc] at cells
    exact (List.nodup_append.mp cells).1

section Gathering

variable {sources rest : List Source} {signatures others : List Signature}
  {first second : List Record} {gathered middle later : Gathered}

theorem Entered.separate (entered : Entered sources signatures first gathered middle)
    (separate : Separate gathered (first ++ second)) : Separate middle second where
  ids := by
    have ids := separate.ids
    rw [List.map_append, ← List.append_assoc] at ids
    rw [entered.ids]
    exact ids
  cells := by
    have cells := separate.cells
    rw [evaluations_append_all, List.map_append, ← List.append_assoc] at cells
    rw [entered.identities]
    exact cells

theorem Entered.comparable (entered : Entered sources signatures first gathered middle)
    (comparable : Comparable gathered (signatures ++ others)) : Comparable middle others := by
  intro signature member canonical known
  rw [entered.canonical, Option.or_assoc, ← List.head?_append] at known
  exact comparable signature (List.mem_append_right _ member) canonical known

theorem Comparable.split (comparable : Comparable gathered (signatures ++ others)) :
    Comparable gathered signatures := by
  intro signature member canonical known
  apply comparable signature (List.mem_append_left _ member) canonical
  rw [List.head?_append, ← Option.or_assoc, known]
  rfl

theorem Entered.trans (before : Entered sources signatures first gathered middle)
    (after : Entered rest others second middle later) :
    Entered (sources ++ rest) (signatures ++ others) (first ++ second) gathered later where
  canonical := by
    rw [after.canonical, before.canonical, Option.or_assoc, ← List.head?_append]
  sources := by rw [after.sources, before.sources, List.append_assoc]
  full_runs := by rw [after.full_runs, before.full_runs, List.append_assoc]
  ids := by rw [after.ids, before.ids, List.map_append, List.append_assoc]
  identities := by
    rw [after.identities, before.identities, evaluations_append_all, List.map_append,
      List.append_assoc]
  evaluation := by
    rw [after.evaluation, before.evaluation, evaluations_append_all, List.map_append,
      List.append_assoc]

end Gathering

section Submitted

variable (submitted : ℤ → Option Submission)

def signaturesOf (seeds : List ℤ) : List Signature :=
  seeds.flatMap fun seed => ((submitted seed).map Submission.signature).toList

def submittedRecords (seeds : List ℤ) : List Record :=
  seeds.flatMap fun seed => recordsIn (submitted seed)

def submittedSources (seeds : List ℤ) : List Source :=
  seeds.map fun seed => sourceOf seed (submitted seed)

variable {submitted} {env : Environment} {classes : Classes} {studies : Studies}

theorem addStudies_accepts {seeds : List ℤ} {gathered : Gathered}
    (found : ∀ seed ∈ seeds, studyOf studies seed = (submitted seed).map Submission.directory)
    (sound : ∀ seed ∈ seeds, ∀ submission ∈ submitted seed, submission.Sound env classes seed)
    (comparable : Comparable gathered (signaturesOf submitted seeds))
    (knows : classes.Knows gathered)
    (separate : Separate gathered (submittedRecords submitted seeds)) :
    ∃ later, addStudies env studies seeds gathered = .ok later ∧ classes.Knows later ∧
      Entered (submittedSources submitted seeds) (signaturesOf submitted seeds)
        (submittedRecords submitted seeds) gathered later := by
  induction seeds generalizing gathered with
  | nil =>
    refine ⟨gathered, rfl, knows, ⟨Option.or_none.symm, ?_, ?_, ?_, ?_, ?_⟩⟩
    all_goals exact (List.append_nil _).symm
  | cons seed seeds ih =>
    rcases addStudy_accepts (found seed List.mem_cons_self) (sound seed List.mem_cons_self)
      comparable.split knows separate.split with ⟨middle, added, known, entered⟩
    rcases ih (fun other member => found other (List.mem_cons_of_mem seed member))
      (fun other member => sound other (List.mem_cons_of_mem seed member))
      (entered.comparable comparable) known (entered.separate separate) with
      ⟨later, rest, still, after⟩
    refine ⟨later, ?_, still, entered.trans after⟩
    simp only [addStudies, bind_ok_iff]
    exact ⟨middle, added, rest⟩

theorem testIds_accepts {gathered : Gathered} {evaluation_ids : List Json}
    (known : ∀ task_id ∈ evaluation_ids, (env.catalog task_id).isSome = true) :
    ∃ test_ids, testIds env gathered evaluation_ids = .ok test_ids := by
  induction evaluation_ids with
  | nil => exact ⟨[], rfl⟩
  | cons task_id rest ih =>
    rcases ih fun other member => known other (List.mem_cons_of_mem task_id member) with
      ⟨later, others⟩
    have assigned : ∃ split, splitOf env gathered task_id = .ok split := by
      rcases Option.isSome_iff_exists.mp (known task_id List.mem_cons_self) with ⟨split, listed⟩
      unfold splitOf
      split
      · exact ⟨_, rfl⟩
      · rw [listed]
        exact ⟨_, rfl⟩
    rcases assigned with ⟨split, assigned⟩
    simp only [testIds, bind_ok_iff]
    exact ⟨_, split, assigned, later, others, rfl⟩

/-- The report on submissions that no check refuses. -/
theorem aggregate_accepts {canonical : Signature}
    (declared : ∀ seed ∈ studies.keys, seed ∈ EXPECTED_SEEDS)
    (found : ∀ seed ∈ EXPECTED_SEEDS,
      studyOf studies seed = (submitted seed).map Submission.directory)
    (sound : ∀ seed ∈ EXPECTED_SEEDS, ∀ submission ∈ submitted seed,
      submission.Sound env classes seed)
    (comparable : Comparable .empty (signaturesOf submitted EXPECTED_SEEDS))
    (separate : Separate .empty (submittedRecords submitted EXPECTED_SEEDS))
    (first : (signaturesOf submitted EXPECTED_SEEDS).head? = some canonical)
    (known : ∀ task_id ∈ ids canonical.full "evaluation_ids",
      (env.catalog task_id).isSome = true) :
    ∃ gathered test_ids,
      aggregate_studies env studies = .ok (makeReport gathered canonical test_ids) ∧
      classes.Knows gathered ∧
      Entered (submittedSources submitted EXPECTED_SEEDS) (signaturesOf submitted EXPECTED_SEEDS)
        (submittedRecords submitted EXPECTED_SEEDS) .empty gathered ∧
      Followed studies EXPECTED_SEEDS gathered ∧
      testIds env gathered (ids canonical.full "evaluation_ids") = .ok test_ids := by
  have unknown : classes.Knows .empty := by
    constructor <;> intro key held impossible <;> cases impossible
  rcases addStudies_accepts found sound comparable unknown separate with
    ⟨gathered, added, knows, entered⟩
  have followed := Followed.run (.empty studies) (by decide) (fun _ member => member) added
  have recorded : gathered.canonical = some canonical := entered.canonical.trans first
  rcases @testIds_accepts env gathered _ known with ⟨test_ids, tests⟩
  refine ⟨gathered, test_ids, ?_, knows, entered, followed, tests⟩
  simp only [aggregate_studies, bind_ok_iff, require_ok_iff]
  refine ⟨(), declared, gathered, added, ?_⟩
  simp only [recorded, bind_ok_iff]
  exact ⟨test_ids, tests, rfl⟩

end Submitted

end ForgeRL.Aggregate
