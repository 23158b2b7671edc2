import ForgeRL.Sandbox.Attributes

namespace ForgeRL

open Library

/-!
# The loader and its cycles

The loader of the runner keeps the modules that are being executed, and
reports a cycle when one of them is asked for.  Here it keeps a log beside its
two sets: which module is asked for, which body begins, ends or raises, and
where a cycle is reported.  Without the log it is the loader of `Runner`.

A body that raises leaves its module among those that are being executed.
When the importer catches the exception and imports the module again, the
loader takes that for a cycle.  In a repository whose imports have no cycle
nothing else is reported.
-/

namespace Loader

open Ast Screen
open Runner (Candidate Execution afterMark beforeMark checkTrees moduleName modules)

inductive Event where
  /-- A module of the repository is asked for. -/
  | asked (name : Text)
  | began (name : Text)
  | finished (name : Text)
  | raised (name : Text)
  /-- "Cyclic repository import" -/
  | cyclic (name : Text)
deriving DecidableEq

/-- The locals of `load_entry`, and the log, the latest event first. -/
structure Trace (σ : Type) where
  state : σ
  loaded : List Text
  loading : List Text
  log : List Event

section Loading

variable {σ : Type} (candidate : Candidate σ) (files : Files)

def Trace.add (trace : Trace σ) (event : Event) : Trace σ :=
  { trace with log := event :: trace.log }

def Trace.loader (trace : Trace σ) : Runner.Loader σ := ⟨trace.state, trace.loaded, trace.loading⟩

def restricted_import (name : Text) (level : ℕ) (trace : Trace σ) :
    Except String Unit × Trace σ :=
  let imported := Runner.restricted_import candidate name level trace.loader
  (imported.1, { trace with state := imported.2.state })

/-- Execute code, with what it imports. -/
def execute (importer : Text → ℕ → Trace σ → Except String Unit × Trace σ) :
    Execution σ → Trace σ → Except String Unit × Trace σ
  | .done state, trace => (.ok (), { trace with state := state })
  | .raised error state, trace => (.error error, { trace with state := state })
  | .imports name level state resume, trace =>
    let imported := importer name level { trace with state := state }
    execute importer (resume imported.1 imported.2.state) imported.2

def importer (load : Text → Trace σ → Except String Unit × Trace σ) (name : Text) (level : ℕ)
    (trace : Trace σ) : Except String Unit × Trace σ :=
  if level ≠ 0 then (.error "ImportError", trace)
  else if name ∈ modules files then load name trace
  else restricted_import candidate name level trace

/-- What `load` does before a body is executed. -/
def Trace.begin (trace : Trace σ) (name : Text) : Trace σ :=
  { trace with loading := name :: trace.loading, log := .began name :: .asked name :: trace.log }

/-- What it does after the execution.  An exception leaves the name in
`loading`: the statement that takes it out is not reached. -/
def close (name : Text) (ended : Except String Unit × Trace σ) : Except String Unit × Trace σ :=
  match ended.1 with
  | .error error => (.error error, ended.2.add (.raised name))
  | .ok _ => (.ok (), { ended.2 with
      loaded := name :: ended.2.loaded
      loading := ended.2.loading.erase name
      log := .finished name :: ended.2.log })

/-- `load`.  A load that is nested as deep as there are modules asks for one of
those that are being executed. -/
def load : ℕ → Text → Trace σ → Except String Unit × Trace σ
  | 0, name, trace => (.error "ImportError", (trace.add (.asked name)).add (.cyclic name))
  | nested + 1, name, trace =>
    if name ∈ trace.loading then
      (.error "ImportError", (trace.add (.asked name)).add (.cyclic name))
    else if name ∈ trace.loaded then (.ok (), trace.add (.asked name))
    else
      close name (execute (importer candidate files (load nested)) (candidate.body name trace.state)
        (trace.begin name))

/-- `load_entry`, with the log of what it did. -/
def load_entry (entrypoint : Text) : Except String σ × List Event :=
  match checkTrees candidate files files.rows with
  | some error => (.error error, [])
  | none =>
    let ended := load candidate files ((modules files).length + 1) (beforeMark 0x3A entrypoint)
      ⟨candidate.fresh, [], [], []⟩
    match ended.1 with
    | .error error => (.error error, ended.2.log)
    | .ok _ =>
      (if candidate.hasCallable ended.2.state (beforeMark 0x3A entrypoint)
          (afterMark 0x3A entrypoint) then .ok ended.2.state
      else .error "ValueError", ended.2.log)

/-! ## Without the log -/

/-- An import without its log. -/
def forget (ended : Except String Unit × Trace σ) : Except String Unit × Runner.Loader σ :=
  (ended.1, ended.2.loader)

variable {candidate files}

theorem forget_execute {traced : Text → ℕ → Trace σ → Except String Unit × Trace σ}
    {plain : Text → ℕ → Runner.Loader σ → Except String Unit × Runner.Loader σ}
    (same : ∀ name level trace, forget (traced name level trace) = plain name level trace.loader)
    (execution : Execution σ) (trace : Trace σ) :
    forget (execute traced execution trace) = Runner.execute plain execution trace.loader := by
  induction execution generalizing trace with
  | done state => rfl
  | raised error state => rfl
  | imports name level state resume ih =>
      have imported := same name level { trace with state := state }
      have loader : Trace.loader { trace with state := state } =
        { trace.loader with state := state } := rfl
      rw [loader] at imported
      rw [execute, ih, Runner.execute, ← imported]
      rfl

theorem forget_close (name : Text) (ended : Except String Unit × Trace σ) :
    forget (close name ended) =
      match (forget ended).1 with
      | .error error => (.error error, (forget ended).2)
      | .ok _ => (.ok (), { (forget ended).2 with
          loaded := name :: (forget ended).2.loaded
          loading := (forget ended).2.loading.erase name }) := by
  rcases ended with ⟨error | _, trace⟩
  · rfl
  · rfl

theorem forget_load (nested : ℕ) (name : Text) (trace : Trace σ) :
    forget (load candidate files nested name trace) =
      Runner.load candidate files nested name trace.loader := by
  induction nested generalizing name trace with
  | zero => rfl
  | succ nested ih =>
      have imports (name : Text) (level : ℕ) (trace : Trace σ) :
          forget (importer candidate files (load candidate files nested) name level trace) =
            Runner.importer candidate files (Runner.load candidate files nested) name level
              trace.loader := by
        unfold importer Runner.importer
        split_ifs
        · rfl
        · exact ih name trace
        · unfold restricted_import Runner.restricted_import
          split_ifs <;> rfl
      have executed := forget_execute imports (candidate.body name trace.state) (trace.begin name)
      rw [load, Runner.load]
      by_cases executing : name ∈ trace.loading
      · rw [if_pos executing, if_pos (show name ∈ trace.loader.loading from executing)]
        rfl
      rw [if_neg executing, if_neg (show name ∉ trace.loader.loading from executing)]
      by_cases done : name ∈ trace.loaded
      · rw [if_pos done, if_pos (show name ∈ trace.loader.loaded from done)]
        rfl
      · rw [if_neg done, if_neg (show name ∉ trace.loader.loaded from done), forget_close, executed]
        rfl

/-- The log is only kept beside the loading. -/
theorem load_entry_eq (entrypoint : Text) :
    (load_entry candidate files entrypoint).1 = Runner.load_entry candidate files entrypoint := by
  have same : forget (load candidate files ((modules files).length + 1)
      (beforeMark 0x3A entrypoint) ⟨candidate.fresh, [], [], []⟩) =
        Runner.load candidate files ((modules files).length + 1) (beforeMark 0x3A entrypoint)
          ⟨candidate.fresh, [], []⟩ := forget_load _ _ _
  unfold load_entry Runner.load_entry
  cases checkTrees candidate files files.rows with
  | some error => rfl
  | none =>
      dsimp only
      rw [← same]
      rcases load candidate files ((modules files).length + 1) (beforeMark 0x3A entrypoint)
        ⟨candidate.fresh, [], [], []⟩ with ⟨error | _, trace⟩
      · rfl
      · rfl

end Loading

/-! ## What a log says -/

/-- A cycle is reported. -/
def Reported (log : List Event) : Prop := ∃ name, .cyclic name ∈ log

/-- A module is asked for again after its body has raised. -/
def Retried : List Event → Prop
  | [] => False
  | .asked name :: earlier => .raised name ∈ earlier ∨ Retried earlier
  | _ :: earlier => Retried earlier

def begunName : Event → Option Text
  | .began name => some name
  | _ => none

/-- The modules whose bodies are executed, once for each execution. -/
def begun (log : List Event) : List Text := log.filterMap begunName

theorem mem_begun_iff {log : List Event} {name : Text} : name ∈ begun log ↔ .began name ∈ log := by
  unfold begun
  rw [List.mem_filterMap]
  constructor
  · rintro ⟨event, member, named⟩
    cases event with
    | began other => cases named; exact member
    | _ => cases named
  · intro member
    exact ⟨.began name, member, rfl⟩

/-- The sets of the loader, while the modules of a stack are executed. -/
structure Consistent {σ : Type} (stack : List Text) (trace : Trace σ) : Prop where
  loading : ∀ name, name ∈ trace.loading ↔ name ∈ stack ∨ .raised name ∈ trace.log
  nodup : trace.loading.Nodup
  /-- What is being executed has not raised. -/
  running : ∀ name ∈ stack, .raised name ∉ trace.log
  began : ∀ name, .began name ∈ trace.log ↔ name ∈ trace.loading ∨ name ∈ trace.loaded
  once : (begun trace.log).Nodup
  verdict : Reported trace.log ↔ Retried trace.log

/-- A body imports from the repository what it is allowed to. -/
def Requests {σ : Type} (allowed : Text → Prop) : Execution σ → Prop
  | .done _ => True
  | .raised _ _ => True
  | .imports name level _ resume =>
    (level = 0 → allowed name) ∧ ∀ outcome state, Requests allowed (resume outcome state)

section Invariant

variable {σ : Type} {candidate : Candidate σ} {files : Files} {stack : List Text} {trace : Trace σ}

theorem Consistent.initial (state : σ) : Consistent [] (⟨state, [], [], []⟩ : Trace σ) where
  loading := fun _ => ⟨fun member => (nomatch member), fun either => by
    rcases either with member | member <;> cases member⟩
  nodup := List.nodup_nil
  running := fun _ member => (nomatch member)
  began := fun _ => ⟨fun member => (nomatch member), fun either => by
    rcases either with member | member <;> cases member⟩
  once := List.nodup_nil
  verdict := ⟨fun ⟨_, member⟩ => (nomatch member), fun retried => retried.elim⟩

/-- The objects decide nothing. -/
theorem Consistent.withState (held : Consistent stack trace) (state : σ) :
    Consistent stack { trace with state := state } :=
  ⟨held.loading, held.nodup, held.running, held.began, held.once, held.verdict⟩

/-- A module that raised is asked for again, and a cycle is reported. -/
theorem Consistent.refused (held : Consistent stack trace) {name : Text}
    (raised : .raised name ∈ trace.log) :
    Consistent stack ((trace.add (.asked name)).add (.cyclic name)) where
  loading := fun other => by simpa [Trace.add] using held.loading other
  nodup := held.nodup
  running := fun other member => by simpa [Trace.add] using held.running other member
  began := fun other => by simpa [Trace.add] using held.began other
  once := held.once
  verdict := ⟨fun _ => .inl raised, fun _ => ⟨name, List.mem_cons_self⟩⟩

theorem retried_asked_iff {log : List Event} {name : Text} (fresh : .raised name ∉ log) :
    Retried (.asked name :: log) ↔ Retried log := or_iff_right fresh

theorem reported_cons_iff {log : List Event} {event : Event} (other : ∀ name, event ≠ .cyclic name) :
    Reported (event :: log) ↔ Reported log := by
  unfold Reported
  constructor
  · rintro ⟨name, member⟩
    rcases List.mem_cons.mp member with same | earlier
    · exact absurd same.symm (other name)
    · exact ⟨name, earlier⟩
  · rintro ⟨name, member⟩
    exact ⟨name, List.mem_cons_of_mem event member⟩

/-- A module that is loaded is asked for again. -/
theorem Consistent.known (held : Consistent stack trace) {name : Text}
    (fresh : .raised name ∉ trace.log) : Consistent stack (trace.add (.asked name)) where
  loading := fun other => by simpa [Trace.add] using held.loading other
  nodup := held.nodup
  running := fun other member => by simpa [Trace.add] using held.running other member
  began := fun other => by simpa [Trace.add] using held.began other
  once := held.once
  verdict := by
    unfold Trace.add
    rw [reported_cons_iff (by simp), retried_asked_iff fresh]
    exact held.verdict

/-- The body of a module that is neither executed nor loaded begins. -/
theorem Consistent.begin (held : Consistent stack trace) {name : Text}
    (idle : name ∉ trace.loading) (new : name ∉ trace.loaded) :
    Consistent (name :: stack) (trace.begin name) := by
  have fresh : .raised name ∉ trace.log := fun raised => idle ((held.loading name).mpr (.inr raised))
  have unbegun : name ∉ begun trace.log := fun member =>
    ((held.began name).mp (mem_begun_iff.mp member)).elim idle new
  refine ⟨fun other => ?_, ?_, fun other member => ?_, fun other => ?_, ?_, ?_⟩
  · simp [Trace.begin, held.loading other, or_assoc]
  · exact List.nodup_cons.mpr ⟨idle, held.nodup⟩
  · rcases List.mem_cons.mp member with rfl | below
    · simpa [Trace.begin] using fresh
    · simpa [Trace.begin] using held.running other below
  · simp [Trace.begin, held.began other, or_assoc]
  · exact List.nodup_cons.mpr ⟨unbegun, held.once⟩
  · unfold Trace.begin
    rw [reported_cons_iff (by simp),
      reported_cons_iff (by simp), held.verdict]
    exact (retried_asked_iff fresh).symm

/-- The body ends, or raises. -/
theorem Consistent.close {name : Text} {ended : Except String Unit × Trace σ}
    (held : Consistent (name :: stack) ended.2) (single : name ∉ stack) :
    Consistent stack (close name ended).2 := by
  rcases ended with ⟨error | _, trace⟩
  · refine ⟨fun other => ?_, held.nodup, fun other member => ?_, fun other => ?_, held.once, ?_⟩
    · have before := held.loading other
      simp only [Trace.add, Loader.close, List.mem_cons, Event.raised.injEq] at before ⊢
      tauto
    · have different : other ≠ name := fun same => single (same ▸ member)
      simpa [Trace.add, Loader.close, different] using
        held.running other (List.mem_cons_of_mem name member)
    · simpa [Trace.add, Loader.close] using held.began other
    · exact (reported_cons_iff (by simp)).trans held.verdict
  · have fresh := held.running name List.mem_cons_self
    refine ⟨fun other => ?_, held.nodup.erase name, fun other member => ?_, fun other => ?_,
      held.once, ?_⟩
    · have before := held.loading other
      simp only [Loader.close, held.nodup.mem_erase_iff, List.mem_cons, reduceCtorEq, false_or]
        at before ⊢
      by_cases same : other = name
      · subst same
        simp [single, fresh]
      · simp [same, before]
    · simpa [Loader.close] using held.running other (List.mem_cons_of_mem name member)
    · have before := held.began other
      have own := (held.loading name).mpr (.inl List.mem_cons_self)
      simp only [Loader.close, held.nodup.mem_erase_iff, List.mem_cons, reduceCtorEq, false_or]
        at before ⊢
      by_cases same : other = name
      · subst same
        simp [before, own]
      · simp [same, before]
    · exact (reported_cons_iff (by simp)).trans held.verdict

/-! ## Loading a repository without cycles -/

/-- `importer` keeps the sets of the loader. -/
def Keeps (files : Files) (stack : List Text) (allowed : Text → Prop)
    (importer : Text → ℕ → Trace σ → Except String Unit × Trace σ) : Prop :=
  ∀ name level trace, (level = 0 → name ∈ modules files → allowed name) → Consistent stack trace →
    Consistent stack (importer name level trace).2

theorem consistent_execute {allowed : Text → Prop}
    {importer : Text → ℕ → Trace σ → Except String Unit × Trace σ}
    (keeps : Keeps files stack allowed importer) {execution : Execution σ}
    (requests : Requests (fun name => name ∈ modules files → allowed name) execution)
    (held : Consistent stack trace) : Consistent stack (execute importer execution trace).2 := by
  induction execution generalizing trace with
  | done state => exact held.withState state
  | raised error state => exact held.withState state
  | imports name level state resume ih =>
      exact ih _ _ (requests.2 _ _) (keeps name level _ requests.1 (held.withState state))

/-- Every body imports only modules that it reaches by the imports in the
source: its own, and those of the modules that it has imported. -/
def OwnImports (parse : Parse) (files : Files) (candidate : Candidate σ) : Prop :=
  ∀ module ∈ modules files, ∀ state,
    Requests (fun name => name ∈ modules files →
      Relation.TransGen (ImportsLocally parse files) module name) (candidate.body module state)

theorem consistent_load {parse : Parse} (acyclic : ¬ Cyclic parse files)
    (own : OwnImports parse files candidate) {nested : ℕ} {name : Text}
    (member : name ∈ modules files)
    (reached : ∀ module ∈ stack, Relation.TransGen (ImportsLocally parse files) module name)
    (distinct : stack.Nodup) (inside : stack ⊆ modules files)
    (deep : (modules files).length < nested + stack.length) (held : Consistent stack trace) :
    Consistent stack (load candidate files nested name trace).2 := by
  induction nested generalizing name stack trace with
  | zero =>
      have fits := (List.subperm_of_subset distinct inside).length_le
      omega
  | succ nested ih =>
      have single : name ∉ stack := fun onStack => acyclic ⟨name, reached name onStack⟩
      rw [load]
      split_ifs with executing done
      · exact held.refused (((held.loading name).mp executing).resolve_left single)
      · exact held.known fun raised => executing ((held.loading name).mpr (.inr raised))
      · refine Consistent.close ?_ single
        refine consistent_execute ?_ (own name member trace.state) (held.begin executing done)
        intro other level trace allowed held
        unfold importer
        split_ifs with relative here
        · exact held
        · have leads := allowed (not_not.mp relative) here
          refine ih here (fun module below => ?_) (List.nodup_cons.mpr ⟨single, distinct⟩)
            (List.cons_subset.mpr ⟨member, inside⟩) ?_ held
          · rcases List.mem_cons.mp below with rfl | below
            · exact leads
            · exact (reached module below).trans leads
          · rw [List.length_cons]
            omega
        · exact held.withState _

theorem entry_mem_modules {parse : Parse} {entrypoint entry function : Text} {imports : ImportTable}
    (checked : Checked parse files entrypoint entry function imports) :
    beforeMark 0x3A entrypoint ∈ modules files := by
  have groups := checked.groups
  unfold ENTRYPOINT at groups
  simp only [Option.ite_none_right_eq_some, Option.some.injEq, Prod.mk.injEq] at groups
  have module : moduleName (fileOf entry) = entry := by
    have ending : (Text.ofString ".py").length = 3 := rfl
    rw [moduleName, fileOf, List.length_append, ending, Nat.add_sub_cancel, List.take_left]
  rw [groups.2.1, modules]
  exact List.mem_map.mpr ⟨fileOf entry, checked.present, module⟩

/-- The sets of the loader when a load ends. -/
theorem consistent_load_entry {parse : Parse} {entrypoint : Text}
    (accepted : validate_files parse files entrypoint = .ok ())
    (own : OwnImports parse files candidate) :
    (Reported (load_entry candidate files entrypoint).2 ↔
        Retried (load_entry candidate files entrypoint).2) ∧
      (begun (load_entry candidate files entrypoint).2).Nodup := by
  rcases validate_files_ok accepted with ⟨entry, function, imports, checked, _⟩
  have held := consistent_load (not_cyclic_of_accepted accepted) own (entry_mem_modules checked)
    (fun module member => absurd member List.not_mem_nil) List.nodup_nil (List.nil_subset _)
    (Nat.lt_succ_self (modules files).length) (Consistent.initial candidate.fresh)
  unfold load_entry
  split
  · exact ⟨⟨fun ⟨_, member⟩ => absurd member List.not_mem_nil, fun retried => retried.elim⟩,
      List.nodup_nil⟩
  · dsimp only
    split
    · exact ⟨held.verdict, held.once⟩
    · exact ⟨held.verdict, held.once⟩

end Invariant

/-- The logged load is that of the runner.  In an accepted repository no cycle is
reported and every body is executed at most once, exactly when no module is imported
again after it has raised. -/
theorem load_entry_reports_iff {parse : Parse} {files : Files} {entrypoint : Text}
    (accepted : validate_files parse files entrypoint = .ok ()) {σ : Type} {candidate : Candidate σ}
    (own : OwnImports parse files candidate) :
    (load_entry candidate files entrypoint).1 = Runner.load_entry candidate files entrypoint ∧
    (¬ Reported (load_entry candidate files entrypoint).2 ∧
        (begun (load_entry candidate files entrypoint).2).Nodup ↔
      ¬ Retried (load_entry candidate files entrypoint).2) := by
  rcases consistent_load_entry accepted own with ⟨verdict, once⟩
  refine ⟨load_entry_eq entrypoint, ?_⟩
  rw [verdict]
  exact and_iff_left once

/-! ## A module that is imported again -/

def mainSource : Text := Text.ofString
  "try:\n    import helper\nexcept Exception:\n    import helper\ndef solve(x):\n    return x\n"

def helperSource : Text := Text.ofString "value = int(\"\")\n"

def retryParse : Parse := fun source => .ok <|
  if source = mainSource then
    .node (.plain .module) [
      .node (.plain .try_) [
        importNode "helper",
        .node (.exceptHandler none) [nameNode "Exception", importNode "helper"]],
      functionNode "solve" [
        .node (.plain .arguments) [.node (.arg (Text.ofString "x")) []],
        .node (.plain .return_) [nameNode "x"]]]
  else
    .node (.plain .module) [
      .node (.plain .assign) [
        .node (.name (Text.ofString "value")) [.node (.plain .store) []],
        .node (.plain .call) [nameNode "int", .node (.plain .constant) []]]]

def retryFiles : Files :=
  Dict.set (Dict.set ∅ (Text.ofString "main.py") mainSource) (Text.ofString "helper.py") helperSource

def helperName : Text := Text.ofString "helper"

/-- The two bodies: an import that is tried again, and an assignment that ends
or raises. -/
def retryBody (fails : Bool) (module : Text) : Execution Unit :=
  if module = helperName then
    if fails then .raised "ValueError" () else .done ()
  else
    .imports helperName 0 () fun
      | .ok _, _ => .done ()
      | .error _, _ => .imports helperName 0 () fun
        | .ok _, _ => .done ()
        | .error error, _ => .raised error ()

def retryCandidate (fails : Bool) : Candidate Unit where
  fresh := ()
  checked_tree := fun source local_modules =>
    match checked_tree retryParse source local_modules with
    | .ok _ => none
    | .error error => some error.className
  body := fun module _ => retryBody fails module
  standardImport := fun _ _ => (.ok (), ())
  hasCallable := fun _ _ _ => true
  call := fun _ _ _ args _ => ⟨(), .null, .ok (.ofJson (args.headD .null))⟩
  floatText := fun _ => []

theorem retryFiles_accepted :
    validate_files retryParse retryFiles (Text.ofString "main:solve") = .ok () := by
  decide +kernel

theorem retryFiles_imports :
    ImportsLocally retryParse retryFiles (Text.ofString "main") helperName := by
  refine ⟨by decide +kernel, (Text.ofString "main.py", mainSource), by decide +kernel,
    by decide +kernel, _, rfl, importNode "helper", ?_, by decide +kernel⟩
  rw [if_pos rfl]
  exact .child List.mem_cons_self (.child List.mem_cons_self .self)

theorem retryBody_own (fails : Bool) : OwnImports retryParse retryFiles (retryCandidate fails) := by
  intro module member _
  have which : module = Text.ofString "main" ∨ module = helperName := by
    have names : modules retryFiles = [Text.ofString "main", helperName] := by decide +kernel
    rw [names, List.mem_pair] at member
    exact member
  have body : (retryCandidate fails).body module () = retryBody fails module := rfl
  rcases which with rfl | rfl
  · have leads : Relation.TransGen (ImportsLocally retryParse retryFiles) (Text.ofString "main")
        helperName := .single retryFiles_imports
    have other : Text.ofString "main" ≠ helperName := by decide +kernel
    rw [body, retryBody, if_neg other]
    refine ⟨fun _ _ => leads, fun outcome _ => ?_⟩
    cases outcome with
    | ok _ => trivial
    | error _ =>
        refine ⟨fun _ _ => leads, fun outcome _ => ?_⟩
        cases outcome <;> trivial
  · rw [body, retryBody, if_pos rfl]
    cases fails <;> trivial

/-- The body of the imported module raises, and the second import of it is
reported as a cycle. -/
theorem retry_reported :
    validate_files retryParse retryFiles (Text.ofString "main:solve") = .ok () ∧
      OwnImports retryParse retryFiles (retryCandidate true) ∧
      (load_entry (retryCandidate true) retryFiles (Text.ofString "main:solve")).1 =
        .error "ImportError" ∧
      Reported (load_entry (retryCandidate true) retryFiles (Text.ofString "main:solve")).2 := by
  refine ⟨retryFiles_accepted, retryBody_own true, by decide +kernel, helperName, ?_⟩
  decide +kernel

/-- Without the exception the module is loaded once. -/
theorem load_entry_reports_iff_retryFiles :
    ¬ Reported (load_entry (retryCandidate false) retryFiles (Text.ofString "main:solve")).2 := by
  refine ((load_entry_reports_iff retryFiles_accepted (retryBody_own false)).2.mpr ?_).1
  have log : (load_entry (retryCandidate false) retryFiles (Text.ofString "main:solve")).2 =
      [.finished (Text.ofString "main"), .finished helperName, .began helperName, .asked helperName,
        .began (Text.ofString "main"), .asked (Text.ofString "main")] := by
    decide +kernel
  rw [log]
  simp [Retried]

end Loader

end ForgeRL
