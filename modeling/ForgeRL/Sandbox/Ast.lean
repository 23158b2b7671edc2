import ForgeRL.Library.Rose
import ForgeRL.Library.Text

namespace ForgeRL

open Library

/-!
# The syntax of candidate code

Candidate code is screened as a tree of the language's syntax.  A node has the
class and the identifiers that the grammar gives it, and its children are the
nodes of its fields, in the order of the fields.  The grammar decides which
trees a parser builds; every tree of nodes is looked at in the same way, so
the trees here are not restricted further.

An attribute is named by an attribute expression, whether it is read, assigned
or deleted, and by a keyword of a class pattern, which reads it.  The keywords
of a class pattern are identifiers of the pattern itself and not nodes.
-/

namespace Ast

/-- The classes of nodes that have no identifier among their fields. -/
inductive Plain where
  | module | typeIgnore
  | return_ | delete | assign | typeAlias | augAssign | annAssign | for_ | asyncFor | while_ | if_
  | with_ | asyncWith | match_ | raise | try_ | tryStar | assert | expr | pass | break_ | continue_
  | boolOp | namedExpr | binOp | unaryOp | lambda | ifExp | dict | set | listComp | setComp
  | dictComp | generatorExp | yield | yieldFrom | compare | call | formattedValue | joinedStr
  | constant | subscript | starred | list | tuple | slice
  | load | store | del | boolOperator | binaryOperator | unaryOperator | comparison
  | comprehension | arguments | withItem | matchCase
  | matchValue | matchSingleton | matchSequence | matchOr
deriving DecidableEq

/-- The class of a node, with its identifiers. -/
inductive Label where
  | functionDef (name : Text)
  | asyncFunctionDef (name : Text)
  | classDef (name : Text)
  | import_
  | importFrom (module : Option Text) (level : ℕ)
  | global (names : List Text)
  | nonlocal (names : List Text)
  | await
  | attribute_ (attr : Text)
  | name (id : Text)
  | exceptHandler (name : Option Text)
  | arg (arg : Text)
  | keyword (arg : Option Text)
  | alias (name : Text) (asname : Option Text)
  | matchMapping (rest : Option Text)
  | matchClass (kwd_attrs : List Text)
  | matchStar (name : Option Text)
  | matchAs (name : Option Text)
  | typeVar (name : Text)
  | paramSpec (name : Text)
  | typeVarTuple (name : Text)
  | plain (kind : Plain)

abbrev Node := Rose Label

/-- The exceptions of a parser. -/
inductive ParseError where
  | syntaxError
  | valueError
  | recursionError
  | memoryError
deriving DecidableEq

def ParseError.className : ParseError → String
  | .syntaxError => "SyntaxError"
  | .valueError => "ValueError"
  | .recursionError => "RecursionError"
  | .memoryError => "MemoryError"

/-- `ast.parse` -/
abbrev Parse := Text → Except ParseError Node

/-! ## Imports -/

def aliasName : Node → Option Text
  | .node (.alias name _) _ => some name
  | _ => none

/-- `[a.name for a in node.names]` -/
def aliases (node : Node) : List Text := node.children.filterMap aliasName

/-- The modules that a statement imports. -/
def importedNames (node : Node) : List Text :=
  match node.label with
  | .import_ => aliases node
  | .importFrom (some module) _ => [module]
  | _ => []

/-- A module of this name is imported somewhere in the tree. -/
def Imports (tree : Node) (name : Text) : Prop :=
  ∃ node : Node, node.Part tree ∧ name ∈ importedNames node

/-! ## Attributes -/

/-- The attributes that a node names. -/
def attributeNames : Label → List Text
  | .attribute_ attr => [attr]
  | .matchClass kwd_attrs => kwd_attrs
  | _ => []

/-- The keywords of a class pattern. -/
def patternKeywords : Label → List Text
  | .matchClass kwd_attrs => kwd_attrs
  | _ => []

/-- Every attribute that is named in the tree has a property. -/
def AttributesSatisfy (tree : Node) (property : Text → Prop) : Prop :=
  ∀ node : Node, node.Part tree → ∀ name ∈ attributeNames node.label, property name

/-- Every keyword of a class pattern in the tree has a property. -/
def KeywordsSatisfy (tree : Node) (property : Text → Prop) : Prop :=
  ∀ node : Node, node.Part tree → ∀ name ∈ patternKeywords node.label, property name

/-- Where the attribute expressions are in order, the class patterns decide. -/
theorem attributesSatisfy_iff {tree : Node} {property : Text → Prop}
    (expressions : ∀ node : Node, node.Part tree →
      ∀ attr, node.label = .attribute_ attr → property attr) :
    AttributesSatisfy tree property ↔ KeywordsSatisfy tree property := by
  constructor
  · intro all node inside name member
    apply all node inside name
    cases label : node.label with
    | matchClass kwd_attrs => rwa [label] at member
    | _ => rw [label] at member; cases member
  · intro keywords node inside name member
    cases label : node.label with
    | attribute_ attr =>
        rw [label, attributeNames, List.mem_singleton] at member
        exact member ▸ expressions node inside attr label
    | matchClass kwd_attrs =>
        rw [label] at member
        exact keywords node inside name (label ▸ member)
    | _ => rw [label] at member; cases member

end Ast

end ForgeRL
