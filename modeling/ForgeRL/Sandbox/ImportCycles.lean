import ForgeRL.Bench.Protected
import ForgeRL.Sandbox.Screen

namespace ForgeRL

open Library

/-!
# The search for cyclic imports

`validate_files` visits every module and follows its imports along a trail.
The search comes to an end for any table whose targets are modules of the
repository, and it stops at a module of its trail exactly when the imports have
a directed cycle.  An import of the own module is the shortest one.  An episode
whose candidates are screened never holds a repository with a cycle but the one
it began with.
-/

namespace Screen

open Ast
open Runner (modules)

section Repositories

variable {parse : Parse} {files : Files} {entrypoint : Text} {imports : ImportTable}

/-- The modules import each other in a circle. -/
def Cyclic (parse : Parse) (files : Files) : Prop :=
  ∃ module, Relation.TransGen (ImportsLocally parse files) module module

/-- A circle is made of modules of the repository. -/
theorem cyclic_iff : Cyclic parse files ↔
    ∃ module ∈ modules files, Relation.TransGen (ImportsLocally parse files) module module := by
  constructor
  · rintro ⟨module, circle⟩
    rcases Relation.TransGen.tail'_iff.mp circle with ⟨before, _, last⟩
    exact ⟨module, last.1, circle⟩
  · rintro ⟨module, _, circle⟩
    exact ⟨module, circle⟩

/-- The search over the extracted imports. -/
theorem visitAll_extracted (extracted : extract_imports parse files entrypoint = .ok imports) :
    visitAll imports ((modules files).length + 1) (modules files) ≠ .tooDeep ∧
      (visitAll imports ((modules files).length + 1) (modules files) = .cyclic ↔
        Cyclic parse files) := by
  rcases extract_imports_ok extracted with ⟨entry, function, checked⟩
  have same : Search.Leads (targets imports) = ImportsLocally parse files := by
    funext module target
    exact propext (checked.mem_targets module target)
  have found := Search.each_visit_iff (fun module _ => checked.closed module)
    (Nat.lt_succ_self (modules files).length)
  rw [same, ← cyclic_iff] at found
  exact found

theorem validate_files_extracted
    (extracted : extract_imports parse files entrypoint = .ok imports) :
    (validate_files parse files entrypoint =
        .error (.rejected "Cyclic repository imports are unsupported") ↔ Cyclic parse files) ∧
      (validate_files parse files entrypoint = .ok () ↔ ¬ Cyclic parse files) := by
  rcases visitAll_extracted extracted with ⟨bounded, found⟩
  unfold validate_files
  rw [extracted, ← found]
  cases ended : visitAll imports ((modules files).length + 1) (modules files) with
  | finished => simp [ended]
  | cyclic => simp [ended]
  | tooDeep => exact absurd ended bounded

/-- What is accepted has no cycle. -/
theorem not_cyclic_of_accepted (accepted : validate_files parse files entrypoint = .ok ()) :
    ¬ Cyclic parse files := by
  cases extracted : extract_imports parse files entrypoint with
  | error rejection =>
      unfold validate_files at accepted
      rw [extracted] at accepted
      cases accepted
  | ok imports => exact (validate_files_extracted extracted).2.mp accepted

end Repositories

/-- The episode checks its candidates with the screen. -/
def screened (parse : Parse) (cfg : Config) : Config :=
  { cfg with validate_files := validate_files parse }

/-- No state that a run of such an episode reaches holds edited files whose
modules import each other in a circle. -/
theorem not_cyclic_of_reachable {parse : Parse} {cfg : Config} {ep : Episode}
    (reachable : Episode.Reachable (screened parse cfg) ep) (edited : ep.files ≠ cfg.task.files) :
    ¬ Cyclic parse ep.files := by
  have kept : Protected (screened parse cfg) ep.files :=
    (reachable.keeps (Episode.filesProtected_keeps _)).1
  exact not_cyclic_of_accepted (kept.validated.resolve_left edited)

/-- The search ends for every finite set of modules, in whatever order they are
visited, and finds a cycle exactly when there is one; the screen reports it. -/
theorem import_cycles (parse : Parse) :
    (∀ (imports : ImportTable) (localNames : List Text),
      (∀ module ∈ localNames, ∀ target ∈ targets imports module, target ∈ localNames) →
      ∀ depth, localNames.length < depth →
        visitAll imports depth localNames ≠ .tooDeep ∧
        (visitAll imports depth localNames = .cyclic ↔ ∃ module ∈ localNames,
          Relation.TransGen (fun module target => target ∈ targets imports module) module module)) ∧
    ∀ (files : Files) (entrypoint : Text) (imports : ImportTable),
      extract_imports parse files entrypoint = .ok imports →
        (validate_files parse files entrypoint =
            .error (.rejected "Cyclic repository imports are unsupported") ↔ Cyclic parse files) ∧
        (validate_files parse files entrypoint = .ok () ↔ ¬ Cyclic parse files) := by
  constructor
  · intro imports localNames closed depth deep
    exact Search.each_visit_iff closed deep
  · intro files entrypoint imports extracted
    exact validate_files_extracted extracted

/-- A statement that imports a module by its name. -/
def importNode (name : String) : Node :=
  .node .import_ [.node (.alias (Text.ofString name) none) []]

/-- A function of this name, as far as the screens look at it. -/
def functionNode (name : String) (body : List Node) : Node :=
  .node (.functionDef (Text.ofString name)) body

/-- A module that imports itself. -/
def selfImport : Node := .node (.plain .module) [importNode "main", functionNode "solve" []]

def mainFiles (source : Text) : Files := Dict.set ∅ (Text.ofString "main.py") source

theorem import_cycles_selfImport :
    validate_files (fun _ => .ok selfImport) (mainFiles []) (Text.ofString "main:solve") =
      .error (.rejected "Cyclic repository imports are unsupported") := by
  have extracted : extract_imports (fun _ => .ok selfImport) (mainFiles [])
      (Text.ofString "main:solve") = .ok [(Text.ofString "main", [Text.ofString "main"])] := by
    decide +kernel
  refine ((import_cycles _).2 _ _ _ extracted).1.mpr ⟨Text.ofString "main", .single ⟨?_, ?_⟩⟩
  · decide +kernel
  · refine ⟨(Text.ofString "main.py", []), ?_, ?_, selfImport, rfl, importNode "main", ?_, ?_⟩
    · decide +kernel
    · decide +kernel
    · exact .child List.mem_cons_self .self
    · decide +kernel

end Screen

end ForgeRL
