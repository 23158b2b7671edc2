import ForgeRL.Bench.Advance

namespace ForgeRL

open Library

/-!
# Protected files

A provider may answer with any names and any contents.  Its files are merged
into the current ones before they are validated, a valid candidate replaces
the files before it is checked, and the files go to the checkpoint and back.
At no point does a state hold files of another shape: a candidate that is not
valid is merged into a value that no state ever holds.
-/

/-- Files that a task allows: its own names, its own text outside the editable
files, and accepted by the validator if they are not the ones it began with. -/
structure Protected (cfg : Config) (files : Files) : Prop where
  keys : ∀ name, name ∈ Dict.keys files ↔ name ∈ Dict.keys cfg.task.files
  unedited : ∀ name, name ∉ cfg.task.allowed_edit_files →
    Dict.get? files name = Dict.get? cfg.task.files name
  validated : files = cfg.task.files ∨ cfg.validate_files files cfg.task.entrypoint = .ok ()

theorem Protected.original (cfg : Config) : Protected cfg cfg.task.files :=
  ⟨fun _ => Iff.rfl, fun _ _ => rfl, .inl rfl⟩

namespace Episode

theorem protected_of_validate_edits {cfg : Config} {candidate : Files}
    (valid : validate_edits cfg candidate = .ok ()) : Protected cfg candidate := by
  unfold validate_edits RepoSandbox.validate_edits at valid
  split_ifs at valid with named edited
  have keys (name : Text) : name ∈ Dict.keys candidate ↔ name ∈ Dict.keys cfg.task.files :=
    ⟨named.1 name, named.2 name⟩
  refine ⟨keys, ?_, .inr valid⟩
  intro name uneditable
  cases original : Dict.get? cfg.task.files name with
  | none =>
    rw [Dict.get?_eq_none_iff] at original ⊢
    exact fun member => original ((keys name).mp member)
  | some text =>
    by_contra differs
    exact edited ⟨(name, text), (Dict.get?_eq_some_iff _ _ _).mp original, differs, uneditable⟩

/-- The files and the checkpoint of a run are protected. -/
def FilesProtected (cfg : Config) (p : Progress) : Prop :=
  Protected cfg p.files ∧ Protected cfg p.best_files

variable {cfg : Config} {p : Progress}

theorem FilesProtected.checkpointed (holds : FilesProtected cfg p) (result : EvalResult) :
    FilesProtected cfg (p.checkpointed result) := by
  refine ⟨holds.1, ?_⟩
  show Protected cfg (if _ then p.files else p.best_files)
  split_ifs
  · exact holds.1
  · exact holds.2

theorem FilesProtected.effect {effect : Progress} {action : Action} {source : String}
    (holds : FilesProtected cfg p) (effected : Progress.Effect cfg source p action effect) :
    FilesProtected cfg effect := by
  cases effected with
  | stopped => exact holds
  | restored terminal => exact ⟨holds.2, holds.2⟩
  | limited => exact holds
  | armed => exact holds
  | dismissed => exact holds
  | measured requests request generated role candidate result valid answer terminal =>
    have applied : FilesProtected cfg { p with files := candidate } :=
      ⟨protected_of_validate_edits valid, holds.2⟩
    exact applied.checkpointed result
  | verified result answer terminal => exact holds

theorem filesProtected_keeps (cfg : Config) : Keeps cfg (FilesProtected cfg) where
  initial := ⟨.original cfg, .original cfg⟩
  entered holds entered := by
    cases entered with
    | again => exact holds
    | baseline => exact holds
  opened holds := holds
  effect holds _ _ effected := by
    have kept := holds.effect effected
    exact kept
  halted holds halted := by
    cases halted with
    | unsent => exact holds
    | failed => exact holds
  raised holds _ _ raised := by
    cases raised with
    | unsent => exact holds
    | escaped => exact holds
    | cancelled => exact holds
    | unscreened => exact holds
    | stranded requests request generated role candidate valid =>
      exact ⟨protected_of_validate_edits valid, holds.2⟩
    | unverified => exact holds
  waited holds := holds
  closed _ _ holds _ := holds

/-- Protected files.  In every state that a run reaches, whatever the provider
and the evaluator answer, whichever actions are chosen and wherever an exception
leaves the run, the files and the checkpoint have the names of the task's files,
the files that may not be edited have their original text, and files that are
not the original ones have passed the validator. -/
theorem files_protected (cfg : Config) {ep : Episode} (reachable : Reachable cfg ep) :
    Protected cfg ep.files ∧ Protected cfg ep.best_files :=
  reachable.keeps (filesProtected_keeps cfg)

theorem files_protected_small :
    Protected (smallConfig fun _ _ => oneCase false)
        (run_episode (smallConfig fun _ _ => oneCase false) .policy).episode.files ∧
      Protected (smallConfig fun _ _ => oneCase false)
        (run_episode (smallConfig fun _ _ => oneCase false) .policy).episode.best_files :=
  files_protected _ (run_episode_reachable _ .policy)

end Episode

end ForgeRL
