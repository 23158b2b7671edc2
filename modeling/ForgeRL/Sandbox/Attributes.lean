import ForgeRL.Sandbox.ImportCycles

namespace ForgeRL

open Library

/-!
# Attributes of accepted source

The screens refuse attribute expressions that name a private attribute, a
dunder or a forbidden name.  They find the expressions wherever they stand in
the tree.  A class pattern reads attributes too, by its keywords, and no screen
looks at these: accepted source names clean attributes only, exactly when its
class patterns do.
-/

namespace Screen

open Ast
open Runner (dunder)

/-- What the screens ask of an attribute. -/
def Clean (name : Text) : Prop :=
  isPrivate name = false ∧ dunder name = false ∧ name ∉ FORBIDDEN_NAMES

instance : DecidablePred Clean := fun _ => inferInstanceAs (Decidable (_ ∧ _ ∧ _))

theorem accessesRuntime_attribute_iff (attr : Text) :
    accessesRuntime FORBIDDEN_NAMES (.attribute_ attr) = false ↔ Clean attr := by
  rw [accessesRuntime, Bool.or_eq_false_iff, Bool.or_eq_false_iff, decide_eq_false_iff_not, Clean]
  tauto

/-- In a tree whose nodes pass, the class patterns decide. -/
theorem attributes_iff_of_passes {importable : Text → Prop} {tree : Node}
    (passes : ∀ node : Node, node.Part tree → Passes importable node) :
    AttributesSatisfy tree Clean ↔ KeywordsSatisfy tree Clean := by
  apply attributesSatisfy_iff
  intro node inside attr label
  have plain := (passes node inside).plain
  rw [label] at plain
  exact (accessesRuntime_attribute_iff attr).mp plain

theorem validate_source_ok {parse : Parse} {source function_name : Text}
    (accepted : validate_source parse source function_name = .ok ()) :
    ∃ tree, parse source = .ok tree ∧ ∀ node : Node, node.Part tree →
      Passes (fun name => isWithin ALLOWED_MODULES name = true) node := by
  unfold validate_source at accepted
  split at accepted
  · cases accepted
  · split at accepted
    · cases accepted
    · split at accepted
      · cases accepted
      · split at accepted
        · cases accepted
        · next tree reads =>
            split at accepted
            · cases accepted
            · split at accepted
              · cases accepted
              · next silent =>
                  refine ⟨tree, parsed_ok reads, fun node inside => ?_⟩
                  exact (sourceMessage_eq_none_iff node).mp
                    (findSome?_walk_eq_none_iff.mp silent node inside)

theorem checked_tree_eq_ok_iff {parse : Parse} {source : Text} {local_modules : List Text}
    {tree : Node} :
    checked_tree parse source local_modules = .ok tree ↔ parse source = .ok tree ∧
      ∀ node : Node, node.Part tree → Passes (Importable local_modules) node := by
  have silent_iff (tree : Node) : tree.walk.findSome? (runnerMessage local_modules) = none ↔
      ∀ node : Node, node.Part tree → Passes (Importable local_modules) node := by
    rw [findSome?_walk_eq_none_iff]
    exact forall₂_congr fun node _ => runnerMessage_eq_none_iff local_modules node
  unfold checked_tree
  split
  · next error failed =>
      rw [failed]
      simp
  · next own reads =>
      rw [reads]
      split
      · next message refused =>
          refine iff_of_false (by simp) ?_
          rintro ⟨same, passes⟩
          cases same
          rw [(silent_iff _).mpr passes] at refused
          cases refused
      · next silent =>
          constructor
          · intro same
            cases same
            exact ⟨rfl, (silent_iff _).mp silent⟩
          · rintro ⟨same, _⟩
            exact congrArg Except.ok (Except.ok.inj same)

/-- Source that a screen accepts names clean attributes only, exactly when the
keywords of its class patterns are clean. -/
theorem accepted_attributes_iff (parse : Parse) :
    (∀ (files : Files) (entrypoint : Text), validate_files parse files entrypoint = .ok () →
      ∀ file ∈ files.rows, ∀ tree, parse file.2 = .ok tree →
        (AttributesSatisfy tree Clean ↔ KeywordsSatisfy tree Clean)) ∧
    (∀ source function_name : Text, validate_source parse source function_name = .ok () →
      ∀ tree, parse source = .ok tree →
        (AttributesSatisfy tree Clean ↔ KeywordsSatisfy tree Clean)) ∧
    ∀ (source : Text) (local_modules : List Text) (tree : Node),
      checked_tree parse source local_modules = .ok tree →
        (AttributesSatisfy tree Clean ↔ KeywordsSatisfy tree Clean) := by
  refine ⟨?_, ?_, ?_⟩
  · intro files entrypoint accepted file member tree reads
    rcases validate_files_ok accepted with ⟨entry, function, imports, checked, _⟩
    rcases (screenFiles_ok checked.screened).1 file member with ⟨own, screened⟩
    rw [screened.parses, Except.ok.injEq] at reads
    exact attributes_iff_of_passes (reads ▸ screened.passes)
  · intro source function_name accepted tree reads
    rcases validate_source_ok accepted with ⟨own, same, passes⟩
    rw [same, Except.ok.injEq] at reads
    exact attributes_iff_of_passes (reads ▸ passes)
  · intro source local_modules tree accepted
    exact attributes_iff_of_passes (checked_tree_eq_ok_iff.mp accepted).2

/-- A class pattern that reads the class of its subject. -/
def patternSource : Text := Text.ofString
  "def solve(x):\n    match x:\n        case object(__class__=y):\n            return y\n"

def nameNode (id : String) : Node := .node (.name (Text.ofString id)) [.node (.plain .load) []]

def classPattern (keyword : String) : Node :=
  .node (.matchClass [Text.ofString keyword]) [
    nameNode "object", .node (.matchAs (some (Text.ofString "y"))) []]

def patternModule (keyword : String) : Node := .node (.plain .module) [
  functionNode "solve" [
    .node (.plain .arguments) [.node (.arg (Text.ofString "x")) []],
    .node (.plain .match_) [
      nameNode "x",
      .node (.plain .matchCase) [
        classPattern keyword, .node (.plain .return_) [nameNode "y"]]]]]

theorem classPattern_part (keyword : String) :
    (classPattern keyword).Part (patternModule keyword) := by
  unfold patternModule functionNode
  refine .child (List.mem_singleton_self _) ?_
  refine .child (List.mem_cons_of_mem _ (List.mem_singleton_self _)) ?_
  refine .child (List.mem_cons_of_mem _ (List.mem_singleton_self _)) ?_
  exact .child List.mem_cons_self .self

theorem patternModule_checked {keyword : String}
    (silent : (patternModule keyword).walk.findSome? (runnerMessage []) = none) :
    checked_tree (fun _ => .ok (patternModule keyword)) patternSource [] =
      .ok (patternModule keyword) := by
  unfold checked_tree
  simp only [silent]

/-- All three screens accept a pattern that reads the class of its subject. -/
theorem classKeyword_accepted :
    validate_files (fun _ => .ok (patternModule "__class__")) (mainFiles patternSource)
        (Text.ofString "main:solve") = .ok () ∧
      validate_source (fun _ => .ok (patternModule "__class__")) patternSource
        (Text.ofString "solve") = .ok () ∧
      checked_tree (fun _ => .ok (patternModule "__class__")) patternSource [] =
        .ok (patternModule "__class__") ∧
      ¬ AttributesSatisfy (patternModule "__class__") Clean := by
  refine ⟨by decide +kernel, by decide +kernel, patternModule_checked (by decide +kernel), ?_⟩
  intro all
  have clean := all _ (classPattern_part "__class__") (Text.ofString "__class__")
    (List.mem_singleton_self _)
  revert clean
  decide +kernel

/-- A pattern that reads a public attribute is accepted, and clean. -/
theorem accepted_attributes_iff_patternModule :
    AttributesSatisfy (patternModule "real") Clean ↔ KeywordsSatisfy (patternModule "real") Clean := by
  have accepted := accepted_attributes_iff fun _ => .ok (patternModule "real")
  have viaFiles := accepted.1 (mainFiles patternSource) (Text.ofString "main:solve")
    (by decide +kernel) (Text.ofString "main.py", patternSource) (by decide +kernel) _ rfl
  have viaSource := accepted.2.1 patternSource (Text.ofString "solve") (by decide +kernel) _ rfl
  have viaRunner := accepted.2.2 patternSource [] _ (patternModule_checked (by decide +kernel))
  exact viaFiles.trans (viaSource.symm.trans viaRunner)

end Screen

end ForgeRL
