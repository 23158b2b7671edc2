import ForgeRL.Sandbox.Ast
import ForgeRL.Sandbox.Runner
import ForgeRL.Library.Trail
import Mathlib.Data.List.Dedup
import Mathlib.Tactic.Tauto

namespace ForgeRL

open Library

/-!
# The syntactic screens

Source is screened in three places: the first version of the sandbox screens
one file with `validate_source`, the second screens the files of a repository
with `validate_files`, and the runner screens each file once more with
`checked_tree`.  Every screen parses the source, walks over all nodes of the
tree and stops at the first one that it refuses.

The three walks look at the same classes of nodes.  They differ in their
messages, in the imports that they allow, and in what they do with the imports:
`validate_files` collects those of the repository itself and refuses a cycle.
The parser is a parameter.
-/

namespace Screen

open Ast
open Sandbox (Rejection)
open Runner (beforeMark dunder identifier isLower isWord moduleName modules)

deriving instance DecidableEq for Sandbox.Rejection

/-! ## What the screens look for -/

def ALLOWED_MODULES : List Text :=
  ["math", "re", "collections", "itertools", "functools", "heapq", "bisect", "statistics",
    "datetime", "decimal", "fractions", "json", "string"].map Text.ofString

def FORBIDDEN_NAMES : List Text :=
  ["eval", "exec", "compile", "open", "input", "breakpoint", "globals", "locals", "vars", "getattr",
    "setattr", "delattr", "dir", "help", "exit", "quit", "memoryview", "print"].map Text.ofString

/-- `name.startswith("_")` -/
def isPrivate : Text → Bool
  | first :: _ => decide (first.val = 0x5F)
  | [] => false

/-- `a.name.startswith("_") or a.name == "*"` -/
def isHidden (name : Text) : Bool := isPrivate name || decide (name = Text.ofString "*")

/-- `not node.module` -/
def lacksModule : Option Text → Bool
  | some module => module.isEmpty
  | none => true

/-- `module.split(".")[0]` is in a set. -/
def isWithin (allowed : List Text) (name : Text) : Bool := decide (beforeMark 0x2E name ∈ allowed)

def isUnsupported : Label → Bool
  | .classDef _ | .asyncFunctionDef _ | .await | .global _ | .nonlocal _ => true
  | _ => false

/-- Names and attributes are looked at, and only attributes may not be private. -/
def accessesRuntime (forbidden : List Text) : Label → Bool
  | .name id => dunder id || decide (id ∈ forbidden)
  | .attribute_ attr => dunder attr || isPrivate attr || decide (attr ∈ forbidden)
  | _ => false

/-- A module defines a function of this name. -/
def definesFunction (tree : Node) (name : Text) : Bool :=
  tree.children.any fun node =>
    match node.label with
    | .functionDef own => decide (own = name)
    | _ => false

/-- `ast.parse`, where three kinds of exceptions are a rejection. -/
def parsed (parse : Parse) (message : String) (source : Text) : Except Rejection Node :=
  match parse source with
  | .ok tree => .ok tree
  | .error .memoryError => .error (.escaped .other)
  | .error _ => .error (.rejected message)

/-! ## One source file -/

def MAX_SOURCE_BYTES : ℕ := 24000

/-- `[a-z][a-z0-9_]*` -/
def functionName : Text → Bool
  | [] => false
  | first :: rest => isLower first && rest.all isWord

/-- The message of a node that `validate_source` refuses. -/
def sourceMessage (node : Node) : Option String :=
  if isUnsupported node.label then some "Unsupported Python construct"
  else if accessesRuntime FORBIDDEN_NAMES node.label then
    some "Runtime introspection and host access are unavailable"
  else
    match node.label with
    | .import_ =>
      if (aliases node).any (fun name => !isWithin ALLOWED_MODULES name) then
        some "Import outside the supported standard-library allowlist"
      else none
    | .importFrom module level =>
      if level ≠ 0 ∨ lacksModule module ∨ !isWithin ALLOWED_MODULES (module.getD []) ∨
          (aliases node).any isHidden then
        some "Import outside the supported standard-library allowlist"
      else none
    | _ => none

/-- `sandbox.validate_source` -/
def validate_source (parse : Parse) (source function_name : Text) : Except Rejection Unit :=
  match Text.encodedLength? source with
  | none => .error (.escaped .unicodeEncodeError)
  | some size =>
    if size > MAX_SOURCE_BYTES then .error (.rejected "Source exceeds the curated repair limit")
    else if ¬ functionName function_name then .error (.rejected "Invalid function name")
    else
      match parsed parse "Source is not valid supported Python" source with
      | .error rejection => .error rejection
      | .ok tree =>
        if ¬ definesFunction tree function_name then
          .error (.rejected "Required function definition is missing")
        else
          match tree.walk.findSome? sourceMessage with
          | some message => .error (.rejected message)
          | none => .ok ()

/-! ## The files of a repository -/

def MAX_FILES : ℕ := 8

def MAX_FILES_BYTES : ℕ := 40000

/-- `[a-z][a-z0-9_]{0,39}\.py\Z` -/
def MODULE (name : Text) : Bool :=
  identifier 39 (moduleName name) && decide (name = moduleName name ++ Text.ofString ".py")

/-- The groups of `([a-z][a-z0-9_]{0,39}):([a-z][a-z0-9_]{0,59})\Z`. -/
def ENTRYPOINT (entrypoint : Text) : Option (Text × Text) :=
  let module := beforeMark 0x3A entrypoint
  let function := Runner.afterMark 0x3A entrypoint
  if identifier 39 module && identifier 59 function &&
      decide (entrypoint = module ++ Text.ofString ":" ++ function) then some (module, function)
  else none

/-- The name of the file of a module. -/
def fileOf (module : Text) : Text := module ++ Text.ofString ".py"

/-- The loop over the imported names: those of the repository itself are
collected. -/
def collect (localNames names : List Text) : Except String (List Text) :=
  if names.any (fun name => decide (name ∉ localNames) && !isWithin ALLOWED_MODULES name) then
    .error "Import outside the supported module allowlist"
  else .ok (names.filter fun name => name ∈ localNames)

/-- The collected imports of a node, or the message of `validate_files`. -/
def fileImports (localNames : List Text) (node : Node) : Except String (List Text) :=
  if isUnsupported node.label then .error "Unsupported Python construct"
  else if accessesRuntime FORBIDDEN_NAMES node.label then
    .error "Runtime introspection and host access are unavailable"
  else
    match node.label with
    | .import_ => collect localNames (aliases node)
    | .importFrom module level =>
      if level ≠ 0 ∨ lacksModule module ∨ (aliases node).any isHidden then
        .error "Unsupported repository import"
      else collect localNames [module.getD []]
    | _ => .ok []

def walkImports (localNames : List Text) : List Node → Except String (List Text)
  | [] => .ok []
  | node :: nodes =>
    match fileImports localNames node with
    | .error message => .error message
    | .ok names =>
      match walkImports localNames nodes with
      | .error message => .error message
      | .ok later => .ok (names ++ later)

/-- The set of the modules of the repository that a file imports. -/
def screenFile (parse : Parse) (localNames : List Text) (entry function : Text)
    (file : Text × Text) : Except Rejection (List Text) :=
  match parsed parse "Repository contains invalid Python" file.2 with
  | .error rejection => .error rejection
  | .ok tree =>
    if file.1 = fileOf entry ∧ ¬ definesFunction tree function then
      .error (.rejected "Required entrypoint function is missing")
    else
      match walkImports localNames tree.walk with
      | .error message => .error (.rejected message)
      | .ok names => .ok names.dedup

/-- The imports of the modules, as the loop over the files collects them. -/
abbrev ImportTable := List (Text × List Text)

def screenFiles (parse : Parse) (localNames : List Text) (entry function : Text) :
    List (Text × Text) → Except Rejection ImportTable
  | [] => .ok []
  | file :: files =>
    match screenFile parse localNames entry function file with
    | .error rejection => .error rejection
    | .ok names =>
      match screenFiles parse localNames entry function files with
      | .error rejection => .error rejection
      | .ok later => .ok ((moduleName file.1, names) :: later)

/-- `validate_files` up to the search for a cycle: the collected imports. -/
def extract_imports (parse : Parse) (files : Files) (entrypoint : Text) :
    Except Rejection ImportTable :=
  if ¬ (1 ≤ files.rows.length ∧ files.rows.length ≤ MAX_FILES) then
    .error (.rejected "Repository must contain one to eight flat modules")
  else if (Dict.keys files).any (fun name => !MODULE name || dunder name) then
    .error (.rejected "Only flat Python module filenames are supported")
  else
    match encodedSum (files.rows.map Prod.snd) with
    | none => .error (.escaped .unicodeEncodeError)
    | some size =>
      if size > MAX_FILES_BYTES then
        .error (.rejected "Repository source exceeds its bounded input limit")
      else
        match ENTRYPOINT entrypoint with
        | none => .error (.rejected "Invalid repository entrypoint")
        | some (entry, function) =>
          if fileOf entry ∉ Dict.keys files ∨ dunder entrypoint then
            .error (.rejected "Invalid repository entrypoint")
          else if (modules files).any (fun name => name ∈ ALLOWED_MODULES) then
            .error (.rejected "Repository modules cannot shadow supported standard libraries")
          else screenFiles parse (modules files) entry function files.rows

/-- `imports[name]` -/
def targets (imports : ImportTable) (name : Text) : List Text := (imports.lookup name).getD []

/-- `for module in local: visit(module, set())` -/
def visitAll (imports : ImportTable) (depth : ℕ) (localNames : List Text) : Search :=
  Search.each (fun name => Search.visit (targets imports) depth name []) localNames

/-- `bench.sandbox.validate_files`.  A trail never has more modules than the
repository, so the depth of the search is not its limit. -/
def validate_files (parse : Parse) (files : Files) (entrypoint : Text) : Except Rejection Unit :=
  match extract_imports parse files entrypoint with
  | .error rejection => .error rejection
  | .ok imports =>
    match visitAll imports ((modules files).length + 1) (modules files) with
    | .finished => .ok ()
    | .cyclic => .error (.rejected "Cyclic repository imports are unsupported")
    | .tooDeep => .error (.escaped .other)

/-! ## The runner -/

def forbidden_names : List Text :=
  ["eval", "exec", "compile", "open", "input", "breakpoint", "globals", "locals", "vars", "getattr",
    "setattr", "delattr", "dir", "help", "exit", "quit", "memoryview", "print"].map Text.ofString

/-- The exceptions of `checked_tree`. -/
inductive CheckError where
  | parse (error : ParseError)
  | valueError (message : String)

def CheckError.className : CheckError → String
  | .parse error => error.className
  | .valueError _ => "ValueError"

/-- The message of a node that the runner refuses. -/
def runnerMessage (local_modules : List Text) (node : Node) : Option String :=
  if isUnsupported node.label then some "Unsupported construct"
  else if accessesRuntime forbidden_names node.label then
    some "Private runtime access is unavailable"
  else
    let outside (name : Text) : Bool :=
      decide (name ∉ local_modules) && !isWithin Runner.ALLOWED_MODULES name
    match node.label with
    | .import_ => if (aliases node).any outside then some "Unsupported import" else none
    | .importFrom module level =>
      if level ≠ 0 ∨ lacksModule module ∨ outside (module.getD []) ∨ (aliases node).any isHidden then
        some "Unsupported import"
      else none
    | _ => none

/-- `checked_tree` -/
def checked_tree (parse : Parse) (source : Text) (local_modules : List Text) :
    Except CheckError Node :=
  match parse source with
  | .error error => .error (.parse error)
  | .ok tree =>
    match tree.walk.findSome? (runnerMessage local_modules) with
    | some message => .error (.valueError message)
    | none => .ok tree

/-! ## What an accepted node is -/

theorem ALLOWED_MODULES_runner : Runner.ALLOWED_MODULES = ALLOWED_MODULES := rfl

theorem forbidden_names_eq : forbidden_names = FORBIDDEN_NAMES := rfl

/-- The imports of a node are allowed, for modules that may be imported. -/
structure ImportsAllowed (importable : Text → Prop) (node : Node) : Prop where
  names : ∀ name ∈ importedNames node, importable name
  flat : ∀ module level, node.label = .importFrom module level →
    level = 0 ∧ lacksModule module = false ∧ (aliases node).any isHidden = false

/-- A node that a screen lets pass. -/
structure Passes (importable : Text → Prop) (node : Node) : Prop where
  supported : isUnsupported node.label = false
  plain : accessesRuntime FORBIDDEN_NAMES node.label = false
  imports : ImportsAllowed importable node

/-- A module of the repository or of the standard library. -/
def Importable (localNames : List Text) (name : Text) : Prop :=
  name ∈ localNames ∨ isWithin ALLOWED_MODULES name = true

section Nodes

variable {importable : Text → Prop} {node : Node}

theorem importsAllowed_import (label : node.label = .import_) :
    ImportsAllowed importable node ↔ ∀ name ∈ aliases node, importable name := by
  have names : importedNames node = aliases node := by rw [importedNames, label]
  constructor
  · intro allowed
    rw [← names]
    exact allowed.names
  · intro all
    refine ⟨names ▸ all, fun module level other => ?_⟩
    rw [label] at other
    cases other

theorem importsAllowed_importFrom {module : Option Text} {level : ℕ}
    (label : node.label = .importFrom module level) :
    ImportsAllowed importable node ↔ level = 0 ∧ lacksModule module = false ∧
      (aliases node).any isHidden = false ∧ importable (module.getD []) := by
  constructor
  · intro allowed
    rcases allowed.flat module level label with ⟨flat, named, shown⟩
    refine ⟨flat, named, shown, allowed.names _ ?_⟩
    cases module with
    | none => cases named
    | some module => rw [importedNames, label]; exact List.mem_singleton_self module
  · rintro ⟨flat, named, shown, may⟩
    refine ⟨fun name member => ?_, fun other height same => ?_⟩
    · cases module with
      | none => cases named
      | some module =>
          rw [importedNames, label, List.mem_singleton] at member
          exact member ▸ may
    · rw [label, Label.importFrom.injEq] at same
      rcases same with ⟨rfl, rfl⟩
      exact ⟨flat, named, shown⟩

theorem importsAllowed_other (statement : node.label ≠ .import_)
    (from_ : ∀ module level, node.label ≠ .importFrom module level) :
    ImportsAllowed importable node := by
  refine ⟨fun name member => ?_, fun module level label => absurd label (from_ module level)⟩
  unfold importedNames at member
  split at member
  · next label => exact absurd label statement
  · next label => exact absurd label (from_ _ _)
  · cases member

/-- The first checks of a node, which all screens share. -/
theorem passes_iff : Passes importable node ↔ isUnsupported node.label = false ∧
    accessesRuntime FORBIDDEN_NAMES node.label = false ∧ ImportsAllowed importable node :=
  ⟨fun passes => ⟨passes.supported, passes.plain, passes.imports⟩,
    fun both => ⟨both.1, both.2.1, both.2.2⟩⟩

end Nodes

/-- The messages of a node come to those of its imports. -/
theorem message_eq_none_iff {importable : Text → Prop} {node : Node} {first second : String}
    {rest : Option String} (imports : rest = none ↔ ImportsAllowed importable node) :
    (if isUnsupported node.label then some first
      else if accessesRuntime FORBIDDEN_NAMES node.label then some second
      else rest) = none ↔ Passes importable node := by
  rw [passes_iff]
  split
  · next refused => simp [refused]
  · next supported =>
      split
      · next refused => simp [refused]
      · next plain =>
          rw [Bool.not_eq_true] at supported plain
          simp only [supported, plain, true_and]
          exact imports

/-- `validate_source` lets a node pass that imports from the standard library. -/
theorem sourceMessage_eq_none_iff (node : Node) :
    sourceMessage node = none ↔ Passes (fun name => isWithin ALLOWED_MODULES name = true) node := by
  unfold sourceMessage
  apply message_eq_none_iff
  split
  · next label =>
      rw [importsAllowed_import label]
      simp
  · next module level label =>
      rw [importsAllowed_importFrom label]
      simp only [ite_eq_right_iff, reduceCtorEq, imp_false, not_or, ne_eq, not_not,
        Bool.not_eq_true, Bool.not_eq_false']
      tauto
  · next statement from_ =>
      exact iff_of_true rfl (importsAllowed_other statement from_)

theorem not_outside_iff {localNames : List Text} {name : Text} :
    (decide (name ∉ localNames) && !isWithin ALLOWED_MODULES name) = false ↔
      Importable localNames name := by
  rw [Importable, Bool.and_eq_false_iff, decide_eq_false_iff_not, not_not, Bool.not_eq_false']

theorem none_outside_iff {localNames names : List Text} :
    names.any (fun name => decide (name ∉ localNames) && !isWithin ALLOWED_MODULES name) = false ↔
      ∀ name ∈ names, Importable localNames name := by
  rw [List.any_eq_false]
  exact forall₂_congr fun name _ => by rw [Bool.not_eq_true, not_outside_iff]

/-- `checked_tree` lets a node pass that imports from the repository too. -/
theorem runnerMessage_eq_none_iff (localNames : List Text) (node : Node) :
    runnerMessage localNames node = none ↔ Passes (Importable localNames) node := by
  unfold runnerMessage
  rw [forbidden_names_eq, ALLOWED_MODULES_runner]
  apply message_eq_none_iff
  dsimp only
  split
  · next label =>
      rw [importsAllowed_import label, ← none_outside_iff]
      simp
  · next module level label =>
      rw [importsAllowed_importFrom label, ← not_outside_iff]
      simp only [ite_eq_right_iff, reduceCtorEq, imp_false, not_or, ne_eq, not_not,
        Bool.not_eq_true]
      tauto
  · next statement from_ =>
      exact iff_of_true rfl (importsAllowed_other statement from_)

theorem collect_eq_ok_iff {localNames names found : List Text} :
    collect localNames names = .ok found ↔ (∀ name ∈ names, Importable localNames name) ∧
      found = names.filter fun name => name ∈ localNames := by
  rw [← none_outside_iff]
  unfold collect
  split
  · next outside =>
      rw [outside]
      exact iff_of_false (fun same => nomatch same) (fun both => nomatch both.1)
  · next inside =>
      rw [Bool.not_eq_true] at inside
      rw [inside, Except.ok.injEq, and_iff_right rfl]
      exact eq_comm

/-- `validate_files` lets the same nodes pass, and collects the modules of the
repository among the imported ones. -/
theorem fileImports_eq_ok_iff (localNames : List Text) (node : Node) (names : List Text) :
    fileImports localNames node = .ok names ↔ Passes (Importable localNames) node ∧
      names = (importedNames node).filter (fun name => name ∈ localNames) := by
  rw [passes_iff]
  unfold fileImports
  split
  · next refused => simp [refused]
  · next supported =>
      split
      · next refused => simp [refused]
      · next plain =>
          rw [Bool.not_eq_true] at supported plain
          simp only [supported, plain, true_and]
          split
          · next label =>
              rw [importsAllowed_import label, collect_eq_ok_iff, importedNames, label]
          · next module level label =>
              rw [importsAllowed_importFrom label]
              split
              · next refused =>
                  apply iff_of_false (fun same => nomatch same)
                  rintro ⟨⟨flat, named, shown, _⟩, _⟩
                  simp [flat, named, shown] at refused
              · next allowed =>
                  simp only [not_or, ne_eq, not_not, Bool.not_eq_true] at allowed
                  have single : importedNames node = [module.getD []] := by
                    cases module with
                    | none => exact absurd allowed.2.1 (by decide)
                    | some module => rw [importedNames, label]; rfl
                  rw [collect_eq_ok_iff, single, List.forall_mem_singleton]
                  simp only [allowed, true_and]
          · next statement from_ =>
              have none_ : importedNames node = [] := by
                unfold importedNames
                split
                · next label => exact absurd label statement
                · next label => exact absurd label (from_ _ _)
                · rfl
              rw [none_, and_iff_right (importsAllowed_other statement from_), Except.ok.injEq]
              exact eq_comm

/-! ## What an accepted file is -/

theorem findSome?_walk_eq_none_iff {message : Node → Option String} {tree : Node} :
    tree.walk.findSome? message = none ↔ ∀ node : Node, node.Part tree → message node = none := by
  rw [List.findSome?_eq_none_iff]
  exact forall_congr' fun node => by rw [Rose.mem_walk_iff]

theorem walkImports_ok {localNames names : List Text} {nodes : List Node}
    (collected : walkImports localNames nodes = .ok names) :
    (∀ node ∈ nodes, Passes (Importable localNames) node) ∧
      ∀ name, name ∈ names ↔ name ∈ localNames ∧ ∃ node ∈ nodes, name ∈ importedNames node := by
  induction nodes generalizing names with
  | nil =>
      cases collected
      simp
  | cons node nodes ih =>
      unfold walkImports at collected
      cases first : fileImports localNames node with
      | error message =>
          rw [first] at collected
          cases collected
      | ok own =>
          cases rest : walkImports localNames nodes with
          | error message =>
              rw [first, rest] at collected
              cases collected
          | ok later =>
              rw [first, rest] at collected
              cases collected
              rcases (fileImports_eq_ok_iff localNames node own).mp first with ⟨passes, rfl⟩
              rcases ih rest with ⟨all, members⟩
              refine ⟨List.forall_mem_cons.mpr ⟨passes, all⟩, fun name => ?_⟩
              rw [List.mem_append, members, List.mem_filter, decide_eq_true_iff,
                List.exists_mem_cons_iff]
              tauto

/-- A file that `validate_files` lets pass. -/
structure Screened (parse : Parse) (localNames : List Text) (entry function : Text)
    (file : Text × Text) (tree : Node) : Prop where
  parses : parse file.2 = .ok tree
  defines : file.1 = fileOf entry → definesFunction tree function = true
  passes : ∀ node : Node, node.Part tree → Passes (Importable localNames) node

section Files

variable {parse : Parse} {localNames : List Text} {entry function : Text}

theorem parsed_ok {message : String} {source : Text} {tree : Node}
    (reads : parsed parse message source = .ok tree) : parse source = .ok tree := by
  unfold parsed at reads
  cases outcome : parse source with
  | ok read =>
      rw [outcome] at reads
      exact congrArg Except.ok (Except.ok.inj reads)
  | error error =>
      rw [outcome] at reads
      cases error <;> cases reads

theorem screenFile_ok {file : Text × Text} {names : List Text}
    (accepted : screenFile parse localNames entry function file = .ok names) :
    ∃ tree, Screened parse localNames entry function file tree ∧
      ∀ name, name ∈ names ↔ name ∈ localNames ∧ Imports tree name := by
  unfold screenFile at accepted
  split at accepted
  · cases accepted
  · next tree reads =>
      split at accepted
      · cases accepted
      · next defines =>
          split at accepted
          · cases accepted
          · next names collected =>
              cases accepted
              rcases walkImports_ok collected with ⟨all, members⟩
              refine ⟨tree, ⟨parsed_ok reads, fun same => ?_, fun node inside => ?_⟩, fun name => ?_⟩
              · exact by_contra fun missing => defines ⟨same, missing⟩
              · exact all node ((Rose.mem_walk_iff node tree).mpr inside)
              · rw [List.mem_dedup, members, Imports]
                simp only [Rose.mem_walk_iff]

theorem targets_cons (module name : Text) (names : List Text) (imports : ImportTable) :
    targets ((module, names) :: imports) name =
      if name = module then names else targets imports name := by
  unfold targets
  rw [List.lookup_cons]
  by_cases same : name = module
  · rw [if_pos same, beq_iff_eq.mpr same]
    rfl
  · rw [if_neg same, beq_eq_false_iff_ne.mpr same]

/-- The loop over the files screens each of them, and its table holds what the
files import from the repository. -/
theorem screenFiles_ok {files : List (Text × Text)} {imports : ImportTable}
    (accepted : screenFiles parse localNames entry function files = .ok imports) :
    (∀ file ∈ files, ∃ tree, Screened parse localNames entry function file tree) ∧
      ((files.map fun file => moduleName file.1).Nodup → ∀ module name,
        name ∈ targets imports module ↔ name ∈ localNames ∧ ∃ file ∈ files,
          moduleName file.1 = module ∧ ∃ tree, parse file.2 = .ok tree ∧ Imports tree name) := by
  induction files generalizing imports with
  | nil =>
      cases accepted
      exact ⟨fun file member => absurd member List.not_mem_nil, fun _ module name => by
        simp [targets]⟩
  | cons file files ih =>
      unfold screenFiles at accepted
      cases first : screenFile parse localNames entry function file with
      | error rejection =>
          rw [first] at accepted
          cases accepted
      | ok own =>
          cases rest : screenFiles parse localNames entry function files with
          | error rejection =>
              rw [first, rest] at accepted
              cases accepted
          | ok later =>
              rw [first, rest] at accepted
              cases accepted
              rcases screenFile_ok first with ⟨tree, screened, members⟩
              rcases ih rest with ⟨all, others⟩
              refine ⟨List.forall_mem_cons.mpr ⟨⟨tree, screened⟩, all⟩, fun distinct module name => ?_⟩
              rw [List.map_cons, List.nodup_cons] at distinct
              rw [targets_cons, List.exists_mem_cons_iff]
              by_cases same : module = moduleName file.1
              · subst same
                rw [if_pos rfl, members]
                constructor
                · rintro ⟨known, inside⟩
                  exact ⟨known, .inl ⟨rfl, tree, screened.parses, inside⟩⟩
                · rintro ⟨known, ⟨_, other, parses, inside⟩ | ⟨other, member, named, _⟩⟩
                  · rw [screened.parses, Except.ok.injEq] at parses
                    exact ⟨known, parses ▸ inside⟩
                  · exact absurd (List.mem_map.mpr ⟨other, member, named⟩) distinct.1
              · rw [if_neg same, others distinct.2 module name]
                constructor
                · rintro ⟨known, found⟩
                  exact ⟨known, .inr found⟩
                · rintro ⟨known, ⟨named, _⟩ | found⟩
                  · exact absurd named.symm same
                  · exact ⟨known, found⟩

end Files

/-! ## What an accepted repository is -/

/-- What `validate_files` has checked before it searches for a cycle. -/
structure Checked (parse : Parse) (files : Files) (entrypoint entry function : Text)
    (imports : ImportTable) : Prop where
  count : 1 ≤ files.rows.length ∧ files.rows.length ≤ MAX_FILES
  names : ∀ name ∈ Dict.keys files, MODULE name = true ∧ dunder name = false
  size : ∃ size, encodedSum (files.rows.map Prod.snd) = some size ∧ size ≤ MAX_FILES_BYTES
  groups : ENTRYPOINT entrypoint = some (entry, function)
  present : fileOf entry ∈ Dict.keys files
  plain : dunder entrypoint = false
  apart : ∀ name ∈ modules files, name ∉ ALLOWED_MODULES
  screened : screenFiles parse (modules files) entry function files.rows = .ok imports

section Repositories

variable {parse : Parse} {files : Files} {entrypoint entry function : Text} {imports : ImportTable}

theorem extract_imports_ok (extracted : extract_imports parse files entrypoint = .ok imports) :
    ∃ entry function, Checked parse files entrypoint entry function imports := by
  unfold extract_imports at extracted
  split at extracted
  · cases extracted
  · next count =>
      split at extracted
      · cases extracted
      · next names =>
          split at extracted
          · cases extracted
          · next size encoded =>
              split at extracted
              · cases extracted
              · next small =>
                  split at extracted
                  · cases extracted
                  · next entry function groups =>
                      split at extracted
                      · cases extracted
                      · next own =>
                          split at extracted
                          · cases extracted
                          · next apart =>
                              rw [not_or, not_not, Bool.not_eq_true] at own
                              rw [Bool.not_eq_true, List.any_eq_false] at names apart
                              refine ⟨entry, function, not_not.mp count, fun name member => ?_,
                                ⟨size, encoded, not_lt.mp small⟩, groups, own.1, own.2,
                                fun name member => ?_, extracted⟩
                              · simpa using names name member
                              · simpa using apart name member

theorem module_iff {name : Text} : MODULE name = true ↔
    identifier 39 (moduleName name) = true ∧ name = moduleName name ++ Text.ofString ".py" := by
  unfold MODULE
  rw [Bool.and_eq_true, decide_eq_true_iff]

/-- The name of a module file is the module with its ending. -/
theorem eq_fileOf {name : Text} (matches_ : MODULE name = true) : name = fileOf (moduleName name) :=
  (module_iff.mp matches_).2

theorem modules_eq : modules files = files.rows.map fun file => moduleName file.1 := by
  rw [modules, Dict.keys, List.map_map]
  rfl

/-- Two files are two modules. -/
theorem modules_nodup (names : ∀ name ∈ Dict.keys files, MODULE name = true) :
    (modules files).Nodup := by
  rw [modules]
  refine List.Nodup.map_on ?_ files.keys_nodup
  intro first firstMember second secondMember same
  rw [eq_fileOf (names first firstMember), eq_fileOf (names second secondMember), same]

/-- A module of the repository imports another, by a statement anywhere in its
file. -/
def ImportsLocally (parse : Parse) (files : Files) (module target : Text) : Prop :=
  target ∈ modules files ∧ ∃ file ∈ files.rows, moduleName file.1 = module ∧
    ∃ tree, parse file.2 = .ok tree ∧ Imports tree target

/-- The table holds the imports between the modules. -/
theorem Checked.mem_targets (checked : Checked parse files entrypoint entry function imports)
    (module target : Text) :
    target ∈ targets imports module ↔ ImportsLocally parse files module target := by
  have distinct := modules_nodup fun name member => (checked.names name member).1
  rw [modules_eq] at distinct
  exact (screenFiles_ok checked.screened).2 distinct module target

theorem Checked.closed (checked : Checked parse files entrypoint entry function imports)
    (module target : Text) (leads : target ∈ targets imports module) : target ∈ modules files :=
  ((checked.mem_targets module target).mp leads).1

/-- What `validate_files` accepts. -/
theorem validate_files_ok (accepted : validate_files parse files entrypoint = .ok ()) :
    ∃ entry function imports, Checked parse files entrypoint entry function imports ∧
      visitAll imports ((modules files).length + 1) (modules files) = .finished := by
  unfold validate_files at accepted
  split at accepted
  · cases accepted
  · next imports extracted =>
      rcases extract_imports_ok extracted with ⟨entry, function, checked⟩
      split at accepted
      · next finished => exact ⟨entry, function, imports, checked, finished⟩
      · cases accepted
      · cases accepted

end Repositories

end Screen

end ForgeRL
