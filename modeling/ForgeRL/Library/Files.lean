import Mathlib.Data.List.Forall2
import Mathlib.Data.List.Infix
import Mathlib.Logic.Function.Basic

/-!
# Files that are written piece by piece

A document is written to a temporary file that replaces its target at the end.
A line is appended to its target.  Both are handed to the file in pieces, and
the writer may be cut off between any two steps.  A document is then the one of
a call that has ended, and of a file of lines all that the calls before have
appended is there, with at most a beginning of the line of the next call.
-/

namespace Library

universe u v

/-! ## Steps -/

inductive FileName (ν : Type u) where
  | target (name : ν)
  | temporary (name : ν)
deriving DecidableEq

/-- What is in the files; a file that does not exist has no content. -/
abbrev Disk (ν : Type u) (β : Type v) := FileName ν → Option (List β)

inductive FileStep (ν : Type u) (β : Type v) where
  /-- Open a file for writing. -/
  | truncate (file : FileName ν)
  /-- Add to the end of a file, which is made if it does not exist. -/
  | append (file : FileName ν) (piece : List β)
  /-- Rename the temporary file to its target. -/
  | replace (name : ν)

/-- A call of the writer, with the whole content that it is given. -/
inductive WriteCall (ν : Type u) (β : Type v) where
  | document (name : ν) (content : List β)
  | line (name : ν) (content : List β)

variable {ν : Type u} {β : Type v}

/-- The steps of a call, which may cut its content into any pieces. -/
inductive Spelling : WriteCall ν β → List (FileStep ν β) → Prop where
  | document (name : ν) (pieces : List (List β)) :
      Spelling (.document name pieces.flatten)
        (.truncate (.temporary name) ::
          (pieces.map (FileStep.append (.temporary name)) ++ [.replace name]))
  | line (name : ν) (pieces : List (List β)) :
      Spelling (.line name pieces.flatten)
        (.append (.target name) [] :: pieces.map (FileStep.append (.target name)))

/-- The steps that a writer has taken when it is cut off. -/
def CutOff (calls : List (WriteCall ν β)) (steps : List (FileStep ν β)) : Prop :=
  ∃ parts, List.Forall₂ Spelling calls parts ∧ steps <+: parts.flatten

/-- The steps of a call that hands its content over in one piece. -/
def WriteCall.steps : WriteCall ν β → List (FileStep ν β)
  | .document name content =>
    [.truncate (.temporary name), .append (.temporary name) content, .replace name]
  | .line name content => [.append (.target name) [], .append (.target name) content]

theorem spelling_steps (call : WriteCall ν β) : Spelling call call.steps := by
  cases call with
  | document name content =>
    have spelled := Spelling.document name [content]
    rw [List.flatten_singleton] at spelled
    exact spelled
  | line name content =>
    have spelled := Spelling.line name [content]
    rw [List.flatten_singleton] at spelled
    exact spelled

/-- A writer that is cut off after some of these steps. -/
theorem cutOff_take (calls : List (WriteCall ν β)) (count : ℕ) :
    CutOff calls ((calls.map WriteCall.steps).flatten.take count) := by
  refine ⟨calls.map WriteCall.steps, ?_, List.take_prefix _ _⟩
  rw [List.forall₂_map_right_iff, List.forall₂_same]
  exact fun call _ => spelling_steps call

section Disks

variable [DecidableEq ν]

def FileStep.perform (disk : Disk ν β) : FileStep ν β → Disk ν β
  | .truncate file => Function.update disk file (some [])
  | .append file piece => Function.update disk file (some ((disk file).getD [] ++ piece))
  | .replace name =>
    Function.update (Function.update disk (.target name) (disk (.temporary name)))
      (.temporary name) none

def performAll (steps : List (FileStep ν β)) (disk : Disk ν β) : Disk ν β :=
  steps.foldl FileStep.perform disk

/-- No file exists. -/
def Disk.empty : Disk ν β := fun _ => none

/-- The contents of the targets. -/
def Disk.contents (disk : Disk ν β) : ν → Option (List β) := fun name => disk (.target name)

/-! ## Calls -/

/-- What a call that has ended leaves. -/
def WriteCall.settle (files : ν → Option (List β)) : WriteCall ν β → ν → Option (List β)
  | .document name content => Function.update files name (some content)
  | .line name content => Function.update files name (some ((files name).getD [] ++ content))

def settled (calls : List (WriteCall ν β)) : ν → Option (List β) :=
  calls.foldl WriteCall.settle fun _ => none

/-- The files of the calls that have ended, where the next call may have begun
its line. -/
inductive Left (files : ν → Option (List β)) (later : List (WriteCall ν β)) :
    (ν → Option (List β)) → Prop where
  | whole : Left files later files
  | torn (name : ν) (content torn : List β) (rest : List (WriteCall ν β))
      (next : later = .line name content :: rest) (beginning : torn <+: content)
      (unfinished : torn ≠ content) :
      Left files later (Function.update files name (some ((files name).getD [] ++ torn)))

section Steps

variable (disk : Disk ν β) (name : ν)

theorem performAll_append (first second : List (FileStep ν β)) :
    performAll (first ++ second) disk = performAll second (performAll first disk) :=
  List.foldl_append

theorem performAll_concat (steps : List (FileStep ν β)) (step : FileStep ν β) :
    performAll (steps ++ [step]) disk = step.perform (performAll steps disk) :=
  performAll_append disk steps [step]

/-- The pieces of a file make up its new end. -/
theorem performAll_pieces (file : FileName ν) (pieces : List (List β)) :
    performAll (pieces.map (FileStep.append file)) disk =
      if pieces = [] then disk
      else Function.update disk file (some ((disk file).getD [] ++ pieces.flatten)) := by
  induction pieces using List.reverseRecOn with
  | nil => rfl
  | append_singleton pieces piece ih =>
    rw [List.map_append, List.map_singleton, performAll_concat, ih,
      if_neg (List.append_ne_nil_of_right_ne_nil _ (List.cons_ne_nil _ _)), List.flatten_append,
      List.flatten_singleton]
    split_ifs with empty
    · rw [empty]
      rfl
    · show Function.update (Function.update disk file _) file _ = _
      rw [Function.update_idem, Function.update_self, Option.getD_some, List.append_assoc]

/-- What is done to a temporary file is not seen. -/
theorem contents_temporary (content : Option (List β)) :
    Disk.contents (Function.update disk (.temporary name) content) = disk.contents := by
  funext other
  exact Function.update_of_ne (by intro same; cases same) _ _

theorem contents_target (content : Option (List β)) :
    Disk.contents (Function.update disk (.target name) content) =
      Function.update disk.contents name content := by
  funext other
  unfold Disk.contents
  by_cases same : other = name
  · rw [same, Function.update_self, Function.update_self]
  · rw [Function.update_of_ne same, Function.update_of_ne]
    exact fun equal => same (FileName.target.inj equal)

theorem contents_pieces_temporary (pieces : List (List β)) :
    (performAll (pieces.map (FileStep.append (.temporary name))) disk).contents =
      disk.contents := by
  rw [performAll_pieces]
  split_ifs
  · rfl
  · exact contents_temporary disk name _

/-- A document that is complete. -/
theorem contents_document (pieces : List (List β)) :
    (performAll (.truncate (.temporary name) ::
      (pieces.map (FileStep.append (.temporary name)) ++ [.replace name])) disk).contents =
        WriteCall.settle disk.contents (.document name pieces.flatten) := by
  show (performAll (pieces.map (FileStep.append (.temporary name)) ++ [.replace name])
    (Function.update disk (.temporary name) (some []))).contents = _
  rw [performAll_concat]
  have held : performAll (pieces.map (FileStep.append (.temporary name)))
      (Function.update disk (.temporary name) (some [])) (.temporary name) =
        some pieces.flatten := by
    rw [performAll_pieces]
    split_ifs with empty
    · rw [empty, Function.update_self]
      rfl
    · rw [Function.update_self, Function.update_self]
      rfl
  unfold FileStep.perform
  dsimp only
  rw [contents_temporary, contents_target, contents_pieces_temporary, contents_temporary, held]
  rfl

/-- The lines of a file, when a beginning of the pieces is there. -/
theorem contents_line (pieces : List (List β)) :
    (performAll (.append (.target name) [] :: pieces.map (FileStep.append (.target name)))
      disk).contents = WriteCall.settle disk.contents (.line name pieces.flatten) := by
  show (performAll (pieces.map (FileStep.append (.target name)))
    (Function.update disk (.target name) (some ((disk (.target name)).getD [] ++ [])))).contents = _
  rw [performAll_pieces]
  split_ifs with empty
  · rw [contents_target, empty]
    rfl
  · rw [contents_target, contents_target, Function.update_idem, Function.update_self,
      List.append_nil]
    rfl

end Steps

/-- A beginning of a list that was mapped is a beginning that was mapped. -/
theorem beginning_map {α : Type*} {γ : Type*} {change : α → γ} {items : List α} {part : List γ}
    (beginning : part <+: items.map change) : ∃ first, first <+: items ∧ part = first.map change := by
  rcases beginning with ⟨rest, whole⟩
  rcases List.append_eq_map_iff.mp whole with ⟨first, second, rfl, rfl, _⟩
  exact ⟨first, List.prefix_append first second, rfl⟩

/-- A beginning of two lists is one of the first, or has all of it. -/
theorem beginning_append {α : Type*} {part first second : List α}
    (beginning : part <+: first ++ second) :
    part <+: first ∨ ∃ rest, part = first ++ rest ∧ rest <+: second := by
  rcases beginning with ⟨rest, whole⟩
  rcases List.append_eq_append_iff.mp whole with ⟨middle, rfl, _⟩ | ⟨middle, rfl, rfl⟩
  · exact .inl (List.prefix_append part middle)
  · exact .inr ⟨middle, rfl, List.prefix_append middle rest⟩

theorem contents_spelling {call : WriteCall ν β} {steps : List (FileStep ν β)}
    (spelled : Spelling call steps) (disk : Disk ν β) :
    (performAll steps disk).contents = call.settle disk.contents := by
  cases spelled with
  | document name pieces => exact contents_document disk name pieces
  | line name pieces => exact contents_line disk name pieces

/-- One call that is cut off has ended, or has begun a line at most. -/
theorem left_of_spelling {call : WriteCall ν β} {steps taken : List (FileStep ν β)}
    (spelled : Spelling call steps) (cut : taken <+: steps) (disk : Disk ν β)
    (later : List (WriteCall ν β)) :
    (performAll taken disk).contents = call.settle disk.contents ∨
      Left disk.contents (call :: later) (performAll taken disk).contents := by
  cases spelled with
  | document name pieces =>
    rcases List.prefix_cons_iff.mp cut with rfl | ⟨further, rfl, inside⟩
    · exact .inr .whole
    · have unseen (first : List (List β)) : (performAll (.truncate (.temporary name) ::
          first.map (FileStep.append (.temporary name))) disk).contents = disk.contents := by
        show (performAll (first.map (FileStep.append (.temporary name)))
          (Function.update disk (.temporary name) (some []))).contents = _
        rw [contents_pieces_temporary, contents_temporary]
      rcases beginning_append inside with written | ⟨last, rfl, ending⟩
      · rcases beginning_map written with ⟨first, _, rfl⟩
        rw [unseen]
        exact .inr .whole
      · rcases List.prefix_cons_iff.mp ending with rfl | ⟨none_, rfl, nothing⟩
        · rw [List.append_nil, unseen]
          exact .inr .whole
        · rw [List.prefix_nil.mp nothing]
          exact .inl (contents_document disk name pieces)
  | line name pieces =>
    rcases List.prefix_cons_iff.mp cut with rfl | ⟨further, rfl, inside⟩
    · exact .inr .whole
    · rcases beginning_map inside with ⟨first, ⟨rest, rfl⟩, rfl⟩
      rw [contents_line]
      by_cases same : first.flatten = (first ++ rest).flatten
      · rw [same]
        exact .inl rfl
      · refine .inr (.torn name _ first.flatten later rfl ?_ same)
        rw [List.flatten_append]
        exact List.prefix_append _ _

theorem left_of_parts {calls : List (WriteCall ν β)} {parts : List (List (FileStep ν β))}
    (spelled : List.Forall₂ Spelling calls parts) {steps : List (FileStep ν β)}
    (cut : steps <+: parts.flatten) (disk : Disk ν β) :
    ∃ ended later, calls = ended ++ later ∧
      Left (ended.foldl WriteCall.settle disk.contents) later
        (performAll steps disk).contents := by
  induction spelled generalizing steps disk with
  | nil =>
    rw [List.prefix_nil.mp cut]
    exact ⟨[], [], rfl, .whole⟩
  | @cons call part calls parts first _ ih =>
    rcases beginning_append cut with inside | ⟨rest, rfl, after⟩
    · rcases left_of_spelling first inside disk calls with ended | begun
      · rw [ended]
        exact ⟨[call], calls, rfl, .whole⟩
      · exact ⟨[], call :: calls, rfl, begun⟩
    · rcases ih after (performAll part disk) with ⟨ended, later, rfl, left⟩
      refine ⟨call :: ended, later, rfl, ?_⟩
      rw [performAll_append, List.foldl_cons, ← contents_spelling first]
      exact left

/-- A writer that is cut off has ended some of its calls, and may have begun the
line of the next one. -/
theorem left_of_cutOff {calls : List (WriteCall ν β)} {steps : List (FileStep ν β)}
    (cut : CutOff calls steps) : ∃ ended later, calls = ended ++ later ∧
      Left (settled ended) later (performAll steps Disk.empty).contents := by
  rcases cut with ⟨parts, spelled, beginning⟩
  exact left_of_parts spelled beginning Disk.empty

/-! ## What a reader finds -/

/-- The documents of a name, in the order of their calls. -/
def documentsOf (name : ν) (calls : List (WriteCall ν β)) : List (List β) :=
  calls.filterMap fun call =>
    match call with
    | .document other content => if other = name then some content else none
    | .line _ _ => none

/-- The lines of a name. -/
def linesOf (name : ν) (calls : List (WriteCall ν β)) : List (List β) :=
  calls.filterMap fun call =>
    match call with
    | .document _ _ => none
    | .line other content => if other = name then some content else none

/-- A file without lines holds its last document. -/
theorem settled_document {name : ν} {calls : List (WriteCall ν β)}
    (unlined : linesOf name calls = []) : settled calls name = (documentsOf name calls).getLast? := by
  induction calls using List.reverseRecOn with
  | nil => rfl
  | append_singleton calls call ih =>
    unfold linesOf at unlined
    rw [List.filterMap_append, List.append_eq_nil_iff] at unlined
    unfold settled documentsOf
    rw [List.foldl_concat, List.filterMap_append]
    cases call with
    | document other content =>
      by_cases same : other = name
      · subst same
        simp [WriteCall.settle]
      · have kept := ih unlined.1
        unfold settled documentsOf at kept
        simp [WriteCall.settle, same, Function.update_of_ne (Ne.symm same), kept]
    | line other content =>
      have different : other ≠ name := by
        rintro rfl
        simp at unlined
      have kept := ih unlined.1
      unfold settled documentsOf at kept
      simp [WriteCall.settle, Function.update_of_ne different.symm, kept]

/-- A file without documents holds all its lines. -/
theorem settled_lines {name : ν} {calls : List (WriteCall ν β)}
    (undocumented : documentsOf name calls = []) :
    (settled calls name).getD [] = (linesOf name calls).flatten := by
  induction calls using List.reverseRecOn with
  | nil => rfl
  | append_singleton calls call ih =>
    unfold documentsOf at undocumented
    rw [List.filterMap_append, List.append_eq_nil_iff] at undocumented
    have kept := ih undocumented.1
    unfold settled linesOf at kept ⊢
    rw [List.foldl_concat, List.filterMap_append]
    cases call with
    | document other content =>
      have different : other ≠ name := by
        rintro rfl
        simp at undocumented
      simp [WriteCall.settle, Function.update_of_ne different.symm, kept]
    | line other content =>
      by_cases same : other = name
      · subst same
        simp [WriteCall.settle, kept]
      · simp [WriteCall.settle, same, Function.update_of_ne (Ne.symm same), kept]

/-- A document is never torn. -/
theorem Left.document {calls later : List (WriteCall ν β)} {files : ν → Option (List β)}
    (left : Left (settled calls) later files) {name : ν}
    (unlined : linesOf name (calls ++ later) = []) :
    files name = (documentsOf name calls).getLast? := by
  unfold linesOf at unlined
  rw [List.filterMap_append, List.append_eq_nil_iff] at unlined
  cases left with
  | whole => exact settled_document unlined.1
  | torn other content torn rest next beginning unfinished =>
    subst next
    have different : name ≠ other := by
      rintro rfl
      simp at unlined
    rw [Function.update_of_ne different]
    exact settled_document unlined.1

/-- A file of lines holds the lines of the calls that have ended, and perhaps a
beginning of the next. -/
theorem Left.lines {calls later : List (WriteCall ν β)} {files : ν → Option (List β)}
    (left : Left (settled calls) later files) {name : ν}
    (undocumented : documentsOf name calls = []) :
    ∃ torn, (files name).getD [] = (linesOf name calls).flatten ++ torn ∧
      (torn = [] ∨ ∃ content rest, later = .line name content :: rest ∧ torn <+: content ∧
        torn ≠ content) := by
  have held := settled_lines undocumented
  cases left with
  | whole => exact ⟨[], by rw [held, List.append_nil], .inl rfl⟩
  | torn other content torn rest next beginning unfinished =>
    by_cases same : name = other
    · subst same
      refine ⟨torn, ?_, .inr ⟨content, rest, next, beginning, unfinished⟩⟩
      rw [Function.update_self, Option.getD_some, held]
    · refine ⟨[], ?_, .inl rfl⟩
      rw [Function.update_of_ne same, held, List.append_nil]

end Disks

end Library
