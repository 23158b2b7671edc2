import ForgeRL.Sandbox.Requests
import ForgeRL.Sandbox.Attributes

namespace ForgeRL

open Library

/-!
# The screens of the host and of the container

A repository that the host accepts is encoded and sent to the runner, which
decodes it and makes its own checks.  The checks are written twice, and they
agree: the runner reads the same files under the same entrypoint, every file
passes `checked_tree`, and the importer serves every import statement that the
host has let pass.
-/

namespace Transport

open Ast Screen
open Sandbox (CleanCase Payload MAX_CASES)
open Runner (modules)

/-- The level of an import statement. -/
def importLevel (node : Node) : ℕ :=
  match node.label with
  | .importFrom _ level => level
  | _ => 0

/-- The importer loads the module from the repository, or leaves it to the
standard library. -/
def Served (files : Files) (name : Text) (level : ℕ) : Prop :=
  ∀ (σ : Type) (candidate : Runner.Candidate σ)
    (load : Text → Runner.Loader σ → Except String Unit × Runner.Loader σ)
    (loader : Runner.Loader σ),
    Runner.importer candidate files load name level loader =
      if name ∈ modules files then load name loader
      else ((candidate.standardImport name loader.state).1,
        { loader with state := (candidate.standardImport name loader.state).2 })

theorem served_of_passes {files : Files} {node : Node}
    (passes : Passes (Importable (modules files)) node) {name : Text}
    (imported : name ∈ importedNames node) : Served files name (importLevel node) := by
  have flat : importLevel node = 0 := by
    unfold importLevel
    split
    · next module level label => exact (passes.imports.flat module level label).1
    · rfl
  intro σ candidate load loader
  unfold Runner.importer
  rw [flat, if_neg (by decide)]
  split
  · rfl
  · next outside =>
      have standard := (passes.imports.names name imported).resolve_left outside
      rw [isWithin, decide_eq_true_iff, ← ALLOWED_MODULES_runner] at standard
      rw [Runner.restricted_import, if_neg]
      rintro (relative | refused)
      · exact relative rfl
      · exact refused standard

section Repositories

variable {parse : Parse} {files : Files} {entrypoint entry function : Text} {imports : ImportTable}

/-- The runner accepts the names, the sizes and the entrypoint. -/
theorem repositoryError_of_checked
    (checked : Checked parse files entrypoint entry function imports) :
    Runner.repositoryError files entrypoint = none := by
  rcases checked.size with ⟨size, encoded, small⟩
  have groups := checked.groups
  unfold ENTRYPOINT at groups
  simp only [Option.ite_none_right_eq_some, Bool.and_eq_true, decide_eq_true_eq,
    Option.some.injEq, Prod.mk.injEq] at groups
  rcases groups with ⟨⟨⟨module, name⟩, whole⟩, same, _⟩
  have named : (Dict.keys files).all Runner.fileName = true := by
    rw [List.all_eq_true]
    intro file member
    have shape := checked.names file member
    rw [module_iff] at shape
    simp only [Runner.fileName, shape.1.1, ← shape.1.2, shape.2, decide_true, Bool.not_false,
      Bool.and_self]
  have entrypoint_ : Runner.entrypointName entrypoint = true := by
    simp only [Runner.entrypointName, module, name, ← whole, checked.plain, decide_true,
      Bool.not_false, Bool.and_self]
  have present : Runner.beforeMark 0x3A entrypoint ++ Text.ofString ".py" ∈ Dict.keys files := by
    rw [same]
    exact checked.present
  have apart : (modules files).any (fun name => name ∈ Runner.ALLOWED_MODULES) = false := by
    rw [List.any_eq_false, ALLOWED_MODULES_runner]
    intro name member
    simpa using checked.apart name member
  have count : 1 ≤ files.rows.length ∧ files.rows.length ≤ 8 := checked.count
  have bound : ¬ size > 40000 := not_lt.mpr small
  unfold Runner.repositoryError
  rw [if_neg (by simp [named, count]), encoded]
  dsimp only
  rw [if_neg bound, if_neg (by simp [entrypoint_, present]), apart]
  rfl

/-- Every file passes the check of the runner. -/
theorem checked_tree_of_screened {file : Text × Text} {tree : Node}
    (screened : Screened parse (modules files) entry function file tree) :
    checked_tree parse file.2 (modules files) = .ok tree :=
  checked_tree_eq_ok_iff.mpr ⟨screened.parses, screened.passes⟩

end Repositories

/-- What the runner reads of a decoded repository. -/
theorem readInput_repository {depth : ℕ} {raw : Text} {files : Files} {entrypoint : Text}
    {cases : List CleanCase} (small : raw.length ≤ MAX_INPUT)
    (decoded : Json.loads depth raw = some (Payload.repository files entrypoint cases).json) :
    readInput depth raw =
      match Runner.repositoryError files entrypoint with
      | some error => .error error
      | none => if cases.length > 24 then .error "ValueError"
          else .ok ⟨files, entrypoint, cases.map fun case => .obj case.fields⟩ := by
  have fields : (Payload.repository files entrypoint cases).json = .obj [
      (Text.ofString "kind", Json.string "repository-v2"), (Text.ofString "files", filesJson files),
      (Text.ofString "entrypoint", .str entrypoint),
      (Text.ofString "cases", Payload.casesJson cases)] := rfl
  have looked (first second third fourth : Json) :
      let named := [(Text.ofString "kind", first), (Text.ofString "files", second),
        (Text.ofString "entrypoint", third), (Text.ofString "cases", fourth)]
      Json.field? named "kind" = some first ∧ Json.field? named "files" = some second ∧
        Json.field? named "entrypoint" = some third ∧ Json.field? named "cases" = some fourth :=
    ⟨rfl, rfl, rfl, rfl⟩
  rcases looked (Json.string "repository-v2") (filesJson files) (.str entrypoint)
    (Payload.casesJson cases) with ⟨kind, own, entry, rows⟩
  have read : filesOf? (filesJson files) = some files := textValues?_filesJson files
  have repository : isRepository [
      (Text.ofString "kind", Json.string "repository-v2"), (Text.ofString "files", filesJson files),
      (Text.ofString "entrypoint", .str entrypoint),
      (Text.ofString "cases", Payload.casesJson cases)] = true := by
    rw [isRepository, kind]
    exact decide_eq_true rfl
  rw [readInput, if_neg (not_lt.mpr small), decoded, fields]
  dsimp only
  rw [if_pos repository, repositoryInput, own, entry]
  dsimp only
  rw [read]
  dsimp only
  rw [casesInput, rows, Payload.casesJson]
  cases Runner.repositoryError files entrypoint with
  | some error => rfl
  | none =>
      dsimp only
      rw [List.length_map]

/-- What the runner reads of an accepted repository. -/
theorem readInput_of_accepted {language : Language} {files : Files} {entrypoint : Text}
    {cases : List CleanCase} {encoded : Text}
    (accepted : Accepted language (.repository files entrypoint cases) encoded)
    (floats : Json.FloatsRead language.floatText (Payload.repository files entrypoint cases).json) :
    readInput language.depth encoded = .ok ⟨files, entrypoint,
      cases.map fun case => .obj (joinedCase case).fields⟩ := by
  rcases validate_files_ok accepted.source.1 with ⟨entry, function, imports, checked, _⟩
  have read : Json.loads language.depth encoded =
      some (Payload.repository files entrypoint (cases.map joinedCase)).json := by
    rw [accepted.bytes, Json.loads_dumps Json.compactSeparators_reads
      (Json.portable_of _ accepted.short floats) accepted.shallow, joined_json accepted.source]
    rfl
  have few : ¬ (cases.map joinedCase).length > 24 := by
    rw [List.length_map]
    exact not_lt.mpr accepted.source.2
  have small : encoded.length ≤ MAX_INPUT := accepted.small.trans (by decide)
  rw [readInput_repository small read, repositoryError_of_checked checked]
  dsimp only
  rw [if_neg few, List.map_map]
  rfl

/-- What the host accepts, the runner accepts: it reads the same files under
the same entrypoint, checks their trees, and serves their imports. -/
theorem payload_contained {language : Language} {files entrypoint cases : Json} {clean : Payload}
    {encoded : Text}
    (accepted : repository_payload language files entrypoint cases = .ok (clean, encoded))
    (floats : Json.FloatsRead language.floatText clean.json) :
    ∃ (own : Files) (entry : Text) (rows : List CleanCase), clean = .repository own entry rows ∧
      readInput language.depth encoded =
        .ok ⟨own, entry, rows.map fun case => .obj (joinedCase case).fields⟩ ∧
      ∀ file ∈ own.rows, ∃ tree, language.parse file.2 = .ok tree ∧
        checked_tree language.parse file.2 (modules own) = .ok tree ∧
        ∀ node : Node, node.Part tree → ∀ name ∈ importedNames node,
          Served own name (importLevel node) := by
  rcases repository_payload_ok accepted with ⟨⟨own, entry, rows, rfl⟩, kept⟩
  rcases validate_files_ok kept.source.1 with ⟨start, function, imports, checked, _⟩
  refine ⟨own, entry, rows, rfl, readInput_of_accepted kept floats, fun file member => ?_⟩
  rcases (screenFiles_ok checked.screened).1 file member with ⟨tree, screened⟩
  refine ⟨tree, screened.parses, checked_tree_of_screened screened, fun node part name named => ?_⟩
  exact served_of_passes (screened.passes node part) named

/-- A module that imports from the standard library. -/
def mathModule : Node := .node (.plain .module) [
  importNode "math",
  functionNode "solve" [
    .node (.plain .arguments) [.node (.arg (Text.ofString "x")) []],
    .node (.plain .return_) [nameNode "x"]]]

def mathSource : Text := Text.ofString "import math\ndef solve(x):\n    return x\n"

def mathLanguage : Language where
  parse _ := .ok mathModule
  floatText _ := []
  depth := 1000

def mathFiles : Files := mainFiles mathSource

/-- A case with positional and keyword arguments. -/
def mathCase : CleanCase where
  name := Text.ofString "halves"
  args := [.arr [.int 1, .null], Json.string "one"]
  kwargs := [(Text.ofString "exact", .bool true)]

def mathPayload : Payload := .repository mathFiles (Text.ofString "main:solve") [mathCase]

theorem mathPayload_accepted : Accepted mathLanguage mathPayload
    (Json.dumps mathLanguage.floatText Json.compactSeparators mathPayload.json) where
  source := ⟨by decide +kernel, by decide +kernel⟩
  shallow := by decide +kernel
  standard := by decide +kernel
  short := by decide +kernel
  bytes := rfl
  small := by decide +kernel

theorem payload_contained_mathModule :
    ∃ encoded, readInput 1000 encoded = .ok ⟨mathFiles, Text.ofString "main:solve",
        [.obj (joinedCase mathCase).fields]⟩ ∧
      Served mathFiles (Text.ofString "math") 0 := by
  have accepted := mathPayload_accepted.again
  rw [mathPayload, read_repository] at accepted
  have floats : Json.FloatsRead mathLanguage.floatText mathPayload.json := by
    simp [mathPayload, mathCase, mathFiles, Payload.json, Payload.casesJson, CleanCase.fields,
      Json.object, Json.FloatsRead, Json.FieldsFloatsRead, Json.ItemsFloatsRead]
    exact ⟨trivial, ⟨trivial, trivial⟩, trivial⟩
  rcases payload_contained accepted floats with ⟨own, entry, rows, same, read, served⟩
  cases same
  rcases served (Text.ofString "main.py", mathSource) (by decide +kernel) with
    ⟨tree, parsed, _, imports⟩
  cases parsed
  exact ⟨_, read, imports (importNode "math") (.child List.mem_cons_self .self) _
    (List.mem_singleton_self _)⟩

end Transport

end ForgeRL
