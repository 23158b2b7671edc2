import ForgeRL.Library.Files
import ForgeRL.Library.Truncated
import ForgeRL.Bench.StudyPhases

namespace ForgeRL

open Library

/-!
# The evidence of a study that is cut off

`Writer` writes each document beside its target and renames it, and appends the
lines of the index, of the events and of the transitions.  The process may be
cut off between any two of these steps, and the pieces that reach a file are
arbitrary.  What is left is the directory of a beginning of the study: complete
documents, and complete lines with at most a piece of the next one.  A call
that cannot encode its value makes no entry; all that it can leave is a
temporary file, or an empty file of lines.
-/

namespace Study

/-! ## The calls of the writer -/

/-- The files of an evidence directory. -/
inductive EvidenceFile where
  | manifest
  | plan
  | controller
  | benchmark
  | events
  | transitions
  | index
  | run (run_id : Text)
deriving DecidableEq

/-- `json.dump` of the documents, and the lines of events and transitions. -/
structure Encoder where
  manifest : Provenance → Text
  plan : Configuration → Text
  controller : Router.Fitted → Text
  benchmark : Benchmark → Text
  result : Text → EpisodeResult → Text
  event : Text → Event → Text
  row : TrainingRow → Text

def phaseText : Phase → String
  | .train => "train"
  | .evaluation => "evaluation"

def policyText : Policy → String
  | .strong_only => "strong_only"
  | .cheap_only => "cheap_only"
  | .escalate_on_failure => "escalate_on_failure"
  | .static_router => "static_router"
  | .adaptive => "adaptive"
  | .exploration => "exploration"
  | .supervised_cost => "supervised_cost"

def statusText : Status → String
  | .running => "running"
  | .completed => "completed"
  | .failed => "failed"
  | .interrupted => "interrupted"
  | .budget_exhausted => "budget_exhausted"

/-- A run of the index, with its phase. -/
structure Listed where
  phase : Phase
  run_id : Text
  result : EpisodeResult

/-- What `Writer.run` appends to the index, its names in order. -/
def Listed.row (run : Listed) : Json :=
  Json.object [
    ("phase", Json.string (phaseText run.phase)),
    ("policy", Json.string (policyText run.result.policy)),
    ("run_id", .str run.run_id),
    ("status", Json.string (statusText run.result.status)),
    ("task_id", .str run.result.task_id)]

def Listed.text (run : Listed) : Text :=
  Json.dumps (fun _ => []) Json.defaultSeparators run.row

def Listed.line (run : Listed) : Text := run.text ++ Text.newline

variable (encoder : Encoder)

/-- The calls of the writer for one entry. -/
def Written.calls : Written → List (WriteCall EvidenceFile CodePoint)
  | .manifest provenance => [.document .manifest (encoder.manifest provenance)]
  | .plan configuration => [.document .plan (encoder.plan configuration)]
  | .event run_id occurred => [.line .events (encoder.event run_id occurred)]
  | .run phase run_id result =>
    [.document (.run run_id) (encoder.result run_id result),
      .line .index (Listed.line ⟨phase, run_id, result⟩)]
  | .transition row => [.line .transitions (encoder.row row)]
  | .controller fitted => [.document .controller (encoder.controller fitted)]
  | .benchmark report => [.document .benchmark (encoder.benchmark report)]

def callsOf (written : List Written) : List (WriteCall EvidenceFile CodePoint) :=
  written.flatMap (Written.calls encoder)

/-! ## The entries of each file -/

def Written.listed? : Written → Option Listed
  | .run phase run_id result => some ⟨phase, run_id, result⟩
  | _ => none

def Written.manifest? : Written → Option Provenance
  | .manifest provenance => some provenance
  | _ => none

def Written.fitted? : Written → Option Router.Fitted
  | .controller fitted => some fitted
  | _ => none

def Written.benchmark? : Written → Option Benchmark
  | .benchmark report => some report
  | _ => none

def listedIn (written : List Written) : List Listed := written.filterMap Written.listed?

def manifestsIn (written : List Written) : List Provenance := written.filterMap Written.manifest?

def fittedIn (written : List Written) : List Router.Fitted := written.filterMap Written.fitted?

def benchmarksIn (written : List Written) : List Benchmark := written.filterMap Written.benchmark?

def Written.plan? : Written → Option Configuration
  | .plan configuration => some configuration
  | _ => none

def Written.event? : Written → Option (Text × Event)
  | .event run_id occurred => some (run_id, occurred)
  | _ => none

def plansIn (written : List Written) : List Configuration := written.filterMap Written.plan?

def eventsIn (written : List Written) : List (Text × Event) := written.filterMap Written.event?

section Files

/-- The documents and lines of a file are those of its entries. -/
theorem filterMap_calls {α : Type} {γ : Type} {written : List Written} {part? : Written → Option α}
    {call? : WriteCall EvidenceFile CodePoint → Option γ} {encode : α → γ}
    (one : ∀ entry, (Written.calls encoder entry).filterMap call? =
      ((part? entry).map encode).toList) :
    (callsOf encoder written).filterMap call? = (written.filterMap part?).map encode := by
  induction written with
  | nil => rfl
  | cons entry written ih =>
    unfold callsOf at ih ⊢
    rw [List.flatMap_cons, List.filterMap_append, ih, one, List.filterMap_cons]
    cases part? entry with
    | none => rfl
    | some found => rfl

theorem lines_index (written : List Written) :
    linesOf .index (callsOf encoder written) = (listedIn written).map Listed.line := by
  apply filterMap_calls
  intro entry
  cases entry <;> rfl

theorem lines_transitions (written : List Written) :
    linesOf .transitions (callsOf encoder written) =
      (transitionsOf written).map encoder.row := by
  apply filterMap_calls
  intro entry
  cases entry <;> rfl

theorem documents_manifest (written : List Written) :
    documentsOf .manifest (callsOf encoder written) =
      (manifestsIn written).map encoder.manifest := by
  apply filterMap_calls
  intro entry
  cases entry <;> rfl

theorem documents_controller (written : List Written) :
    documentsOf .controller (callsOf encoder written) =
      (fittedIn written).map encoder.controller := by
  apply filterMap_calls
  intro entry
  cases entry <;> rfl

theorem documents_benchmark (written : List Written) :
    documentsOf .benchmark (callsOf encoder written) =
      (benchmarksIn written).map encoder.benchmark := by
  apply filterMap_calls
  intro entry
  cases entry <;> rfl

theorem documents_plan (written : List Written) :
    documentsOf .plan (callsOf encoder written) = (plansIn written).map encoder.plan := by
  apply filterMap_calls
  intro entry
  cases entry <;> rfl

theorem lines_events (written : List Written) :
    linesOf .events (callsOf encoder written) =
      (eventsIn written).map fun event => encoder.event event.1 event.2 := by
  apply filterMap_calls
  intro entry
  cases entry <;> rfl

/-- The runs with an identifier. -/
def namedRuns (run_id : Text) (written : List Written) : List Listed :=
  (listedIn written).filter fun run => run.run_id = run_id

theorem documents_run (run_id : Text) (written : List Written) :
    documentsOf (.run run_id) (callsOf encoder written) =
      (namedRuns run_id written).map fun run => encoder.result run.run_id run.result := by
  unfold namedRuns listedIn
  rw [← List.filterMap_eq_filter, List.filterMap_filterMap]
  apply filterMap_calls
  intro entry
  cases entry with
  | run phase named result =>
    by_cases same : named = run_id
    · subst same
      simp [Written.calls, Written.listed?, Option.guard]
    · simp [Written.calls, Written.listed?, Option.guard, same]
  | _ => rfl

/-- The files without lines. -/
def EvidenceFile.Document (file : EvidenceFile) : Prop :=
  file ≠ .events ∧ file ≠ .transitions ∧ file ≠ .index

theorem lines_document {file : EvidenceFile} (document : file.Document) (written : List Written) :
    linesOf file (callsOf encoder written) = [] := by
  rcases document with ⟨events, transitions, index⟩
  have one (entry : Written) : linesOf file (Written.calls encoder entry) = [] := by
    cases entry <;>
      simp [linesOf, Written.calls, events.symm, transitions.symm, index.symm]
  unfold callsOf linesOf
  rw [List.filterMap_flatMap, List.flatMap_eq_nil_iff]
  exact fun entry _ => one entry

/-- The files of lines are no documents. -/
theorem documents_lines {file : EvidenceFile} (lines : ¬ file.Document)
    (written : List Written) : documentsOf file (callsOf encoder written) = [] := by
  have one (entry : Written) : documentsOf file (Written.calls encoder entry) = [] := by
    cases file with
    | events => cases entry <;> rfl
    | transitions => cases entry <;> rfl
    | index => cases entry <;> rfl
    | _ => exact absurd ⟨nofun, nofun, nofun⟩ lines
  unfold callsOf documentsOf
  rw [List.filterMap_flatMap, List.flatMap_eq_nil_iff]
  exact fun entry _ => one entry

/-- The calls that have ended are those of some entries, and perhaps the document
of the next run. -/
theorem exists_entries {written : List Written}
    {ended later : List (WriteCall EvidenceFile CodePoint)}
    (split : callsOf encoder written = ended ++ later) :
    ∃ done rest, written = done ++ rest ∧ (ended = callsOf encoder done ∨
      ∃ phase run_id result more, rest = .run phase run_id result :: more ∧
        ended = callsOf encoder done ++
          [.document (.run run_id) (encoder.result run_id result)]) := by
  induction written generalizing ended with
  | nil =>
    have nothing := (List.append_eq_nil_iff.mp split.symm).1
    exact ⟨[], [], rfl, .inl nothing⟩
  | cons entry written ih =>
    have beginning : ended <+: Written.calls encoder entry ++ callsOf encoder written :=
      ⟨later, split.symm⟩
    rcases beginning_append beginning with inside | ⟨further, rfl, _⟩
    · have cut : ended = [] ∨ ended = Written.calls encoder entry ∨
          ∃ phase run_id result, entry = .run phase run_id result ∧
            ended = [.document (.run run_id) (encoder.result run_id result)] := by
        cases entry with
        | run phase run_id result =>
          rcases List.prefix_cons_iff.mp inside with nothing | ⟨last, rfl, ending⟩
          · exact .inl nothing
          · rcases List.prefix_cons_iff.mp ending with rfl | ⟨none_, rfl, remaining⟩
            · exact .inr (.inr ⟨phase, run_id, result, rfl, rfl⟩)
            · rw [List.prefix_nil.mp remaining]
              exact .inr (.inl rfl)
        | _ =>
          rcases List.prefix_cons_iff.mp inside with nothing | ⟨none_, rfl, remaining⟩
          · exact .inl nothing
          · rw [List.prefix_nil.mp remaining]
            exact .inr (.inl rfl)
      rcases cut with rfl | rfl | ⟨phase, run_id, result, rfl, rfl⟩
      · exact ⟨[], entry :: written, rfl, .inl rfl⟩
      · exact ⟨[entry], written, rfl, .inl (List.append_nil _).symm⟩
      · exact ⟨[], _, rfl, .inr ⟨phase, run_id, result, written, rfl, rfl⟩⟩
    · have rest : callsOf encoder written = further ++ later := by
        have whole : Written.calls encoder entry ++ callsOf encoder written =
            Written.calls encoder entry ++ (further ++ later) := by
          rw [← List.append_assoc]
          exact split
        exact List.append_cancel_left whole
      rcases ih rest with ⟨done, tail, rfl, same | ⟨phase, run_id, result, more, rfl, same⟩⟩
      · exact ⟨entry :: done, tail, rfl, .inl (by rw [same]; rfl)⟩
      · refine ⟨entry :: done, _, rfl, .inr ⟨phase, run_id, result, more, rfl, ?_⟩⟩
        rw [same, ← List.append_assoc]
        rfl

end Files

/-! ## The directory that is left -/

/-- A file of lines holds some of all its lines, and at most a beginning of the
next one. -/
def HoldsLines (lines all : List Text) (file : Option Text) : Prop :=
  ∃ torn, file.getD [] = lines.flatten ++ torn ∧
    (torn = [] ∨ ∃ line rest, all = lines ++ line :: rest ∧ torn <+: line ∧ torn ≠ line)

theorem HoldsLines.whole {all : List Text} {file : Option Text} (holds : HoldsLines all all file) :
    file.getD [] = all.flatten := by
  rcases holds with ⟨torn, held, rfl | ⟨line, rest, more, _, _⟩⟩
  · rw [held, List.append_nil]
  · cases List.self_eq_append_right.mp more

/-- What the directory holds of a study: the files of a beginning of its
entries. -/
structure Recovered (written done : List Written) (files : EvidenceFile → Option Text) :
    Prop where
  beginning : done <+: written
  manifest : files .manifest = ((manifestsIn done).map encoder.manifest).getLast?
  plan : files .plan = ((plansIn done).map encoder.plan).getLast?
  controller : files .controller = ((fittedIn done).map encoder.controller).getLast?
  benchmark : files .benchmark = ((benchmarksIn done).map encoder.benchmark).getLast?
  /-- The document of an identifier is that of its last listed run, or of the
  next run of the study, which is not listed yet. -/
  documents : ∀ run_id, files (.run run_id) = ((namedRuns run_id done).map
      fun run => encoder.result run.run_id run.result).getLast? ∨
    ∃ phase result rest, written = done ++ .run phase run_id result :: rest ∧
      files (.run run_id) = some (encoder.result run_id result)
  index : HoldsLines ((listedIn done).map Listed.line) ((listedIn written).map Listed.line)
    (files .index)
  events : HoldsLines ((eventsIn done).map fun event => encoder.event event.1 event.2)
    ((eventsIn written).map fun event => encoder.event event.1 event.2) (files .events)
  transitions : HoldsLines ((transitionsOf done).map encoder.row)
    ((transitionsOf written).map encoder.row) (files .transitions)

section Lines

variable (run : Listed)

theorem floatsRead_row : Json.FloatsRead (fun _ => []) run.row := by
  unfold Listed.row Json.object
  rw [Json.FloatsRead, Json.fieldsFloatsRead_iff]
  simp only [List.map_cons, List.map_nil, List.forall_mem_cons]
  exact ⟨trivial, trivial, trivial, trivial, trivial,
    fun _ member => absurd member List.not_mem_nil⟩

theorem portable_row : Json.Portable (fun _ => []) run.row := by
  unfold Listed.row Json.object
  exact ⟨trivial, trivial, trivial, trivial, trivial, trivial⟩

theorem oneLine_text : Json.OneLine run.text := by
  unfold Listed.text
  apply Json.oneLine_dumps _ _ (floatsRead_row run)
  · exact Json.oneLine_ascii (Json.oneLine_ofString (by decide))
  · exact Json.oneLine_ascii (Json.oneLine_ofString (by decide))

/-- A line of the index is read back. -/
theorem loads_line {depth : ℕ} (room : 1 ≤ depth) :
    Json.loads depth run.line = some (Json.joined run.row) := by
  apply Json.loads_dumps_line Json.defaultSeparators_reads (portable_row run)
  exact room

/-- A piece of a line is read if only the line feed is missing. -/
theorem loads_piece {depth : ℕ} (room : 1 ≤ depth) {piece : Text} (begun : piece ≠ [])
    (beginning : piece <+: run.line) (unfinished : piece ≠ run.line) :
    Json.loads depth piece = none ∨ piece = run.text := by
  rcases List.prefix_concat_iff.mp beginning with whole | ⟨rest, split⟩
  · exact absurd whole unfinished
  · by_cases cut : rest = []
    · rw [cut, List.append_nil] at split
      exact .inr split
    · exact .inl (Json.loads_beginning Json.defaultSeparators_reads (portable_row run) room
        split.symm begun cut)

end Lines

/-- What is left when the writer is cut off. -/
theorem exists_recovered {written : List Written} {steps : List (FileStep EvidenceFile CodePoint)}
    (cut : CutOff (callsOf encoder written) steps) :
    ∃ done, Recovered encoder written done (performAll steps Disk.empty).contents := by
  rcases left_of_cutOff cut with ⟨ended, later, split, left⟩
  rcases exists_entries encoder split with ⟨done, rest, parts, entries⟩
  generalize (performAll steps Disk.empty).contents = files at left
  refine ⟨done, ?_⟩
  -- The document of a run that is not listed yet is in none of the other files.
  have documents {file : EvidenceFile} (other : ∀ run_id, file ≠ .run run_id) :
      documentsOf file ended = documentsOf file (callsOf encoder done) := by
    rcases entries with rfl | ⟨phase, run_id, result, more, _, rfl⟩
    · rfl
    · unfold documentsOf
      rw [List.filterMap_append]
      simp [(other run_id).symm]
  have lines (file : EvidenceFile) : linesOf file ended = linesOf file (callsOf encoder done) := by
    rcases entries with rfl | ⟨phase, run_id, result, more, _, rfl⟩
    · rfl
    · unfold linesOf
      rw [List.filterMap_append]
      exact List.append_nil _
  have unlined {file : EvidenceFile} (document : file.Document) :
      linesOf file (ended ++ later) = [] := split ▸ lines_document encoder document written
  have whole {file : EvidenceFile} (document : file.Document)
      (other : ∀ run_id, file ≠ .run run_id) :
      files file = (documentsOf file (callsOf encoder done)).getLast? :=
    (left.document (unlined document)).trans (congrArg List.getLast? (documents other))
  have appended {file : EvidenceFile} (plain : ¬ file.Document)
      (other : ∀ run_id, file ≠ .run run_id) :
      HoldsLines (linesOf file (callsOf encoder done)) (linesOf file (callsOf encoder written))
        (files file) := by
    have undocumented : documentsOf file ended = [] :=
      (documents other).trans (documents_lines encoder plain done)
    rcases left.lines undocumented with ⟨torn, held, incomplete⟩
    refine ⟨torn, ?_, ?_⟩
    · rw [held, lines]
    · rcases incomplete with none_ | ⟨content, others, next, beginning, unfinished⟩
      · exact .inl none_
      · refine .inr ⟨content, linesOf file others, ?_, beginning, unfinished⟩
        rw [split, next, ← lines]
        unfold linesOf
        rw [List.filterMap_append]
        simp
  constructor
  · exact ⟨rest, parts.symm⟩
  · rw [@whole .manifest ⟨nofun, nofun, nofun⟩ fun _ => nofun, documents_manifest]
  · rw [@whole .plan ⟨nofun, nofun, nofun⟩ fun _ => nofun, documents_plan]
  · rw [@whole .controller ⟨nofun, nofun, nofun⟩ fun _ => nofun, documents_controller]
  · rw [@whole .benchmark ⟨nofun, nofun, nofun⟩ fun _ => nofun, documents_benchmark]
  · intro named
    have held := left.document (@unlined (.run named) ⟨nofun, nofun, nofun⟩)
    rw [held]
    rcases entries with rfl | ⟨phase, run_id, result, more, next, rfl⟩
    · left
      rw [documents_run]
    · by_cases same : run_id = named
      · subst same
        refine .inr ⟨phase, result, more, next ▸ parts, ?_⟩
        unfold documentsOf
        rw [List.filterMap_append]
        simp
      · left
        rw [← documents_run]
        unfold documentsOf
        rw [List.filterMap_append]
        simp [same]
  · rw [← lines_index encoder, ← lines_index encoder]
    exact appended (fun document => document.2.2 rfl) fun _ => nofun
  · rw [← lines_events, ← lines_events]
    exact appended (fun document => document.1 rfl) fun _ => nofun
  · rw [← lines_transitions, ← lines_transitions]
    exact appended (fun document => document.2.1 rfl) fun _ => nofun

section Readers

variable {encoder} {written done : List Written} {files : EvidenceFile → Option Text}

theorem mem_namedRuns {run : Listed} (member : run ∈ listedIn done) :
    run ∈ namedRuns run.run_id done :=
  List.mem_filter.mpr ⟨member, decide_eq_true rfl⟩

/-- The lines of the index, as they are read, and the piece after them. -/
theorem Recovered.breakLines (recovered : Recovered encoder written done files) :
    ∃ torn, Json.breakLines ((files .index).getD []) = ((listedIn done).map Listed.line, torn) ∧
      (torn = [] ∨ ∃ run rest, listedIn written = listedIn done ++ run :: rest ∧
        torn <+: run.line ∧ torn ≠ run.line) := by
  rcases recovered.index with ⟨torn, held, incomplete⟩
  have next : torn = [] ∨ ∃ run rest, listedIn written = listedIn done ++ run :: rest ∧
      torn <+: run.line ∧ torn ≠ run.line := by
    rcases incomplete with none_ | ⟨line, others, more, beginning, unfinished⟩
    · exact .inl none_
    · rcases recovered.beginning.filterMap Written.listed? with ⟨later, whole⟩
      have parts : listedIn written = listedIn done ++ later := whole.symm
      rw [parts, List.map_append] at more
      rcases List.map_eq_cons_iff.mp (List.append_cancel_left more) with ⟨run, rest, rfl, rfl, _⟩
      exact .inr ⟨run, rest, parts, beginning, unfinished⟩
  have single : Json.OneLine torn := by
    rcases next with rfl | ⟨run, rest, _, beginning, unfinished⟩
    · exact fun _ member => absurd member List.not_mem_nil
    · exact Json.oneLine_of_unfinished (oneLine_text run) beginning unfinished
  have texts : (listedIn done).map Listed.line =
      ((listedIn done).map Listed.text).map fun text => text ++ Text.newline := by
    rw [List.map_map]
    rfl
  refine ⟨torn, ?_, next⟩
  rw [held, texts, Json.breakLines_flatten _ single]
  rw [List.forall_mem_map]
  exact fun run _ => oneLine_text run

/-- Every listed run has a complete document of its identifier. -/
theorem Recovered.listed (recovered : Recovered encoder written done files) {run : Listed}
    (member : run ∈ listedIn done) : ∃ other ∈ namedRuns run.run_id written,
      files (.run run.run_id) = some (encoder.result other.run_id other.result) := by
  rcases recovered.documents run.run_id with held | ⟨phase, result, rest, next, held⟩
  · have some_ := List.ne_nil_of_mem (mem_namedRuns member)
    refine ⟨(namedRuns run.run_id done).getLast some_, ?_, ?_⟩
    · exact ((recovered.beginning.filterMap _).filter _).subset (List.getLast_mem some_)
    · rw [held, List.getLast?_map, List.getLast?_eq_some_getLast some_]
      rfl
  · refine ⟨⟨phase, run.run_id, result⟩, ?_, held⟩
    refine @mem_namedRuns _ ⟨phase, run.run_id, result⟩ ?_
    rw [next]
    unfold listedIn
    rw [List.filterMap_append]
    exact List.mem_append_right _ List.mem_cons_self

end Readers

/-! ## The manifest -/

section Manifests

variable {env : Surroundings} {settings : Settings} {tasks : List RepoTask}
  {configuration : Configuration} {bounded : CappedProvider}

/-- Every manifest says that the study is running. -/
def StillRunning (written : List Written) : Prop :=
  ∀ provenance, .manifest provenance ∈ written → provenance.status = .running

theorem StillRunning.append {first second : List Written} (before : StillRunning first)
    (after : StillRunning second) : StillRunning (first ++ second) := by
  intro provenance member
  rcases List.mem_append.mp member with earlier | later
  · exact before provenance earlier
  · exact after provenance later

theorem StillRunning.leave {p : Progress} (running : StillRunning p.written) (run_id : Text)
    (ep : Episode) : StillRunning (p.leave run_id ep).written := by
  apply running.append
  intro provenance member
  rcases List.mem_map.mp member with ⟨_, _, impossible⟩
  cases impossible

theorem StillRunning.run {p : Progress} (running : StillRunning p.written) (phase : Phase)
    (run_id : Text) (result : EpisodeResult) :
    StillRunning (p.write [.run phase run_id result]).written := by
  apply running.append
  intro provenance member
  cases List.mem_singleton.mp member

theorem StillRunning.collect {p : Progress} (running : StillRunning p.written)
    (rows : List TrainingRow) : StillRunning (p.collect rows).written := by
  have kept : StillRunning (p.written ++ rows.map Written.transition) := by
    apply running.append
    intro provenance member
    rcases List.mem_map.mp member with ⟨_, _, impossible⟩
    cases impossible
  exact kept

theorem stillRunning_trained :
    StillRunning (trainedBy env settings tasks configuration bounded).state.written := by
  apply campaign_keeps fun p : Progress => StillRunning p.written
  · intro design _ before running
    have ways := @trainAttempt_cases env settings bounded tasks configuration design before
    generalize trainAttempt env settings bounded tasks configuration design before = upshot at ways
    cases ways with
    | unstarted escape missing => exact running
    | raised escape left task cfg setup ran => exact running.leave _ left
    | completed task cfg result done trained status =>
      exact ((running.leave _ done).run .train _ result).collect _
    | exhausted task cfg result done trained status =>
      exact (running.leave _ done).run .train _ result
    | failed task cfg result done trained status =>
      exact (running.leave _ done).run .train _ result
  · intro provenance member
    rcases List.mem_cons.mp member with same | rest
    · rw [Written.manifest.inj same]
      rfl
    · cases List.mem_singleton.mp rest

theorem stillRunning_evaluated (fitted : Router.Fitted) {p : Progress}
    (start : StillRunning p.written) :
    StillRunning (evaluatedBy env settings tasks configuration bounded fitted p).state.written := by
  apply campaign_keeps fun p : Progress => StillRunning p.written
  · intro design _ before running
    have ways := @evaluateAttempt_cases env settings bounded tasks fitted.artifact design before
    generalize evaluateAttempt env settings bounded tasks fitted.artifact design before = upshot
      at ways
    cases ways with
    | unstarted escape missing => exact running
    | raised escape left task cfg setup ran => exact running.leave _ left
    | exhausted task cfg result done evaluated status =>
      exact (running.leave _ done).run .evaluation _ result
    | recorded task cfg result done evaluated status =>
      exact (running.leave _ done).run .evaluation _ result
  · apply start.append
    intro provenance member
    rcases List.mem_cons.mp member with impossible | last
    · cases impossible
    · rw [Written.manifest.inj (List.mem_singleton.mp last)]
      rfl

/-- A manifest that does not say so is the last entry of all. -/
def Closes (written : List Written) : Prop :=
  ∀ front provenance back, written = front ++ .manifest provenance :: back →
    provenance.status ≠ .running → back = []

theorem closes_of_running {body : List Written} (running : StillRunning body) : Closes body := by
  intro front provenance back split ended
  refine absurd (running provenance ?_) ended
  rw [split]
  exact List.mem_append_right front List.mem_cons_self

theorem closes_of_report {body : List Written} (running : StillRunning body)
    (benchmark : Benchmark) :
    Closes (body ++ [.benchmark benchmark, .manifest benchmark.provenance]) := by
  intro front provenance back split ended
  have whole : (body ++ [.benchmark benchmark]) ++ [.manifest benchmark.provenance] =
      front ++ .manifest provenance :: back := by
    rw [List.append_assoc]
    exact split
  rcases List.append_eq_append_iff.mp whole with ⟨middle, before, after⟩ | ⟨middle, before, after⟩
  · cases middle with
    | nil => exact (List.cons.inj after).2.symm
    | cons entry middle =>
      have impossible := (List.cons.inj after).2
      cases middle <;> cases impossible
  · have member : .manifest provenance ∈ body ++ [.benchmark benchmark] ∨ back = [] := by
      cases middle with
      | nil =>
        exact .inr (List.cons.inj after).2
      | cons entry middle =>
        rw [before, (List.cons.inj after).1]
        exact .inl (List.mem_append_right front List.mem_cons_self)
    rcases member with inside | done
    · rcases List.mem_append.mp inside with earlier | last
      · exact absurd (running provenance earlier) ended
      · cases List.mem_singleton.mp last
    · exact done

theorem closes_concludeStop {p : Progress} (running : StillRunning p.written)
    (fitted : Option Router.Fitted) (runs : List (Text × EpisodeResult)) (stop : Option Stop) :
    Closes (concludeStop env tasks bounded configuration fitted runs stop p).written := by
  rcases @written_concludeStop env tasks bounded configuration fitted runs stop p with
    same | ⟨benchmark, same⟩
  · rw [same]
    exact closes_of_running running
  · rw [same]
    exact closes_of_report running benchmark

theorem run_study_closes : Closes (run_study env settings tasks).written := by
  rcases @run_study_cases env settings tasks with ⟨nothing, _⟩ | ⟨configuration, bounded, begun,
    studying⟩
  · rw [nothing]
    exact closes_of_running fun _ member => absurd member List.not_mem_nil
  · generalize run_study env settings tasks = studied at studying
    cases studying with
    | stopped stop reason => exact closes_concludeStop stillRunning_trained _ _ _
    | unfitted escape whole refused => exact closes_concludeStop stillRunning_trained _ _ _
    | evaluated fitted whole accepted =>
      apply closes_concludeStop
      exact stillRunning_evaluated fitted stillRunning_trained

/-- The last manifest of some entries. -/
theorem split_last_manifest {done : List Written} {provenance : Provenance}
    (last : (manifestsIn done).getLast? = some provenance) :
    ∃ front back, done = front ++ .manifest provenance :: back := by
  have member : provenance ∈ manifestsIn done := List.mem_of_getLast? last
  rcases List.mem_filterMap.mp member with ⟨entry, inside, found⟩
  cases entry with
  | manifest other =>
    cases found
    rcases List.append_of_mem inside with ⟨front, back, split⟩
    exact ⟨front, back, split⟩
  | _ => cases found

end Manifests

/-! ## The study -/

section Studies

variable {env : Surroundings} {settings : Settings} {tasks : List RepoTask}
  {written done : List Written}

theorem mem_listedIn {run : Listed} (member : run ∈ listedIn done) :
    .run run.phase run.run_id run.result ∈ done := by
  rcases List.mem_filterMap.mp member with ⟨entry, inside, found⟩
  cases entry with
  | run phase run_id result =>
    cases found
    exact inside
  | _ => cases found

/-- Of a study that is cut off after an evaluation is listed, the transitions and
the controller are all there. -/
theorem frozen_of_listed (shaped : Shaped env settings tasks written) (beginning : done <+: written)
    {run : Listed} (member : run ∈ listedIn done) (evaluated : run.phase = .evaluation) :
    transitionsOf done = transitionsOf written ∧ ∃ fitted, fittedIn done = [fitted] ∧
      Router.fit_q env.fitDigest (transitionsOf written) (9 / 10) 100 12 = .ok fitted := by
  have recorded : .run .evaluation run.run_id run.result ∈ done := by
    have inside := mem_listedIn member
    rwa [evaluated] at inside
  cases shaped with
  | training written rehearsal => cases rehearsal.entries _ (beginning.subset recorded)
  | evaluation before after fitted rehearsal accepted evaluations =>
    have entries := rehearsal.entries
    rcases beginning_append beginning with early | ⟨rest, rfl, inside⟩
    · cases entries _ (early.subset recorded)
    · rcases List.prefix_cons_iff.mp inside with rfl | ⟨ran, rfl, evaluations_⟩
      · rw [List.append_nil] at recorded
        cases entries _ recorded
      · have none_ (part : List Written) (inside : part <+: after) : transitionsOf part = [] :=
          (runsOf_evaluating fun entry known => evaluations entry (inside.subset known)).2
        have rows (part : List Written) (inside : part <+: after) :
            transitionsOf (before ++ .controller fitted :: part) = transitionsOf before := by
          rw [transitionsOf_append]
          show transitionsOf before ++ transitionsOf part = _
          rw [none_ part inside, List.append_nil]
        rw [rows ran evaluations_, rows after (List.prefix_refl _)]
        refine ⟨rfl, fitted, ?_, accepted⟩
        have trained : fittedIn before = [] := by
          apply List.filterMap_eq_nil_iff.mpr
          intro entry known
          cases entries entry known <;> rfl
        have later : fittedIn ran = [] := by
          apply List.filterMap_eq_nil_iff.mpr
          intro entry known
          cases evaluations entry (evaluations_.subset known) <;> rfl
        unfold fittedIn at trained later ⊢
        rw [List.filterMap_append, List.filterMap_cons, trained, later]
        rfl

/-- The directory of a study of which everything is there. -/
structure Complete (written : List Written) (files : EvidenceFile → Option Text) : Prop where
  documents : ∀ run ∈ listedIn written, files (.run run.run_id) =
    ((namedRuns run.run_id written).map
      fun run => encoder.result run.run_id run.result).getLast?
  index : (files .index).getD [] = ((listedIn written).map Listed.line).flatten
  events : (files .events).getD [] =
    ((eventsIn written).map fun event => encoder.event event.1 event.2).flatten
  transitions : (files .transitions).getD [] = ((transitionsOf written).map encoder.row).flatten

theorem Recovered.complete {encoder : Encoder} {files : EvidenceFile → Option Text}
    (recovered : Recovered encoder written written files) : Complete encoder written files where
  documents := by
    intro run _
    rcases recovered.documents run.run_id with held | ⟨_, _, _, more, _⟩
    · exact held
    · cases List.self_eq_append_right.mp more
  index := recovered.index.whole
  events := recovered.events.whole
  transitions := recovered.transitions.whole

/-- What a reader may conclude from the directory of a study. -/
structure Consistent (env : Surroundings) (written done : List Written)
    (files : EvidenceFile → Option Text) : Prop where
  recovered : Recovered encoder written done files
  /-- The complete lines of the index are those of the listed runs, and they are
  read back. -/
  lines : (Json.breakLines ((files .index).getD [])).1 = (listedIn done).map Listed.line
  read : ∀ depth, 1 ≤ depth →
    (Json.breakLines ((files .index).getD [])).1.map (Json.loads depth) =
      (listedIn done).map fun run => some (Json.joined run.row)
  /-- What follows them cannot be read, or is the line of the next run without
  its line feed. -/
  torn : ∀ depth, 1 ≤ depth → (Json.breakLines ((files .index).getD [])).2 ≠ [] →
    Json.loads depth (Json.breakLines ((files .index).getD [])).2 = none ∨
      ∃ run rest, listedIn written = listedIn done ++ run :: rest ∧
        (Json.breakLines ((files .index).getD [])).2 = run.text
  /-- Every listed run has a complete document. -/
  runs : ∀ run ∈ listedIn done, ∃ other ∈ namedRuns run.run_id written,
    files (.run run.run_id) = some (encoder.result other.run_id other.result)
  /-- With identifiers of its own, each listed run has its own document. -/
  own : ((listedIn written).map Listed.run_id).Nodup → ∀ run ∈ listedIn done,
    files (.run run.run_id) = some (encoder.result run.run_id run.result)
  /-- Once an evaluation is listed, the controller and all its data are there. -/
  frozen : ∀ run ∈ listedIn done, run.phase = .evaluation → ∃ fitted,
    files .controller = some (encoder.controller fitted) ∧
      (files .transitions).getD [] = ((transitionsOf written).map encoder.row).flatten ∧
      Router.fit_q env.fitDigest (transitionsOf written) (9 / 10) 100 12 = .ok fitted
  /-- Once the manifest says that the study has ended, everything is there. -/
  ended : ∀ provenance, (manifestsIn done).getLast? = some provenance →
    provenance.status ≠ .running → done = written ∧ Complete encoder written files

/-- The evidence of every study, wherever its process is cut off and in whatever
pieces it has written. -/
theorem study_crash (env : Surroundings) (settings : Settings) (tasks : List RepoTask)
    (steps : List (FileStep EvidenceFile CodePoint))
    (cut : CutOff (callsOf encoder (run_study env settings tasks).written) steps) :
    ∃ done, Consistent encoder env (run_study env settings tasks).written done
      (performAll steps Disk.empty).contents := by
  rcases exists_recovered encoder cut with ⟨done, recovered⟩
  have closes := @run_study_closes env settings tasks
  have shaped := @run_study_shaped env settings tasks
  generalize (run_study env settings tasks).written = written at recovered closes shaped
  rcases recovered.breakLines with ⟨torn, broken, next⟩
  refine ⟨done, recovered, congrArg Prod.fst broken, ?_, ?_, fun run => recovered.listed, ?_, ?_,
    ?_⟩
  · intro depth room
    rw [broken, List.map_map]
    apply List.map_congr_left
    intro run _
    rw [Function.comp_apply, loads_line run room]
  · intro depth room some_
    rw [broken] at some_ ⊢
    rcases next with none_ | ⟨run, rest, listed, beginning, unfinished⟩
    · exact absurd none_ some_
    · exact (loads_piece run room some_ beginning unfinished).imp id
        fun whole => ⟨run, rest, listed, whole⟩
  · intro distinct run member
    rcases recovered.listed member with ⟨other, named, held⟩
    rcases List.mem_filter.mp named with ⟨known, same⟩
    have inside : run ∈ listedIn written := (recovered.beginning.filterMap _).subset member
    have identified : other.run_id = run.run_id := of_decide_eq_true same
    have equal : other = run := List.inj_on_of_nodup_map distinct known inside identified
    rw [held, equal]
  · intro run member evaluated
    rcases frozen_of_listed shaped recovered.beginning member evaluated with
      ⟨all, fitted, only, accepted⟩
    refine ⟨fitted, ?_, ?_, accepted⟩
    · rw [recovered.controller, only]
      rfl
    · have held := recovered.transitions
      rw [all] at held
      exact held.whole
  · intro provenance last ended
    rcases split_last_manifest last with ⟨front, back, rfl⟩
    rcases recovered.beginning with ⟨rest, whole⟩
    rw [List.append_assoc] at whole
    have nothing := closes front provenance (back ++ rest) whole.symm ended
    rcases List.append_eq_nil_iff.mp nothing with ⟨rfl, rfl⟩
    have same : front ++ [.manifest provenance] = written := whole
    rw [same] at recovered ⊢
    exact ⟨rfl, recovered.complete⟩

def smallEncoder : Encoder where
  manifest := fun _ => Text.ofString "[17, 0]\n"
  plan := fun _ => Text.ofString "[17]\n"
  controller := fun _ => Text.ofString "[100]\n"
  benchmark := fun _ => Text.ofString "[5]\n"
  result := fun _ _ => Text.ofString "[0, 1]\n"
  event := fun _ _ => Text.ofString "[1]\n"
  row := fun _ => Text.ofString "[2]\n"

/-- The small study, cut off after forty steps. -/
theorem study_crash_small : ∃ steps done, steps.length = 40 ∧
    Consistent smallEncoder smallSurroundings
      (run_study smallSurroundings smallSettings smallTasks).written done
      (performAll steps Disk.empty).contents := by
  rcases study_crash smallEncoder smallSurroundings smallSettings smallTasks _
    (cutOff_take _ 40) with ⟨done, consistent⟩
  refine ⟨_, done, ?_, consistent⟩
  decide +kernel

end Studies

end Study

end ForgeRL
