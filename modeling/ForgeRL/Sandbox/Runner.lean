import ForgeRL.Sandbox.Evaluate
import ForgeRL.Bench.Extract
import Mathlib.Data.List.Sort

namespace ForgeRL

open Library

/-!
# The runner inside the container

The runner executes candidate code, which may return any object, raise any
exception and leave its arguments in any state.  The code is a parameter; what
the runner does with it is not: it loads the flat modules of a repository
afresh for every case, converts the returned object through JSON, and compares
the JSON texts of the arguments before and after the call.

Only the loading, the call and the conversion are inside a `try`.
-/

namespace Runner

/-! ## Objects -/

/-- An object as the JSON encoder walks over it, with converted keys in their
order.  A part that the encoder cannot write raises: a set or a function, a
container inside of itself, keys that do not compare. -/
inductive PyObject where
  | null
  | bool (value : Bool)
  | int (value : ℤ)
  | float (value : JsonFloat)
  | str (text : Text)
  | list (items : List PyObject)
  | dict (entries : List (Text × PyObject))
  | refused (error : String)

namespace PyObject

mutual

/-- The exception of the first part that cannot be written. -/
def refusal : PyObject → Option String
  | .list items => itemsRefusal items
  | .dict entries => entriesRefusal entries
  | .refused error => some error
  | _ => none

def itemsRefusal : List PyObject → Option String
  | [] => none
  | item :: items => (refusal item).or (itemsRefusal items)

def entriesRefusal : List (Text × PyObject) → Option String
  | [] => none
  | (_, value) :: entries => (refusal value).or (entriesRefusal entries)

end

/-- An escape of one UTF-16 code unit. -/
def unitEscape (unit : ℕ) : Text :=
  Text.ofString "\\u" ++ [Json.hexDigit (unit / 4096), Json.hexDigit (unit / 256 % 16),
    Json.hexDigit (unit / 16 % 16), Json.hexDigit (unit % 16)]

/-- A character in a string literal that is printable ASCII only. -/
def asciiEscape (point : CodePoint) : Text :=
  if point.val < 0x20 ∨ point.val = 0x22 ∨ point.val = 0x5C then Json.escape point
  else if point.val < 0x7F then [point]
  else if point.val < 0x10000 then unitEscape point.val
  else unitEscape (0xD800 + (point.val - 0x10000) / 0x400) ++
    unitEscape (0xDC00 + (point.val - 0x10000) % 0x400)

def quote (text : Text) : Text :=
  Text.ofString "\"" ++ text.flatMap asciiEscape ++ Text.ofString "\""

section Written

variable (floatText : ℚ → Text)

mutual

/-- The text of an object that can be written. -/
def written : PyObject → Text
  | .null => Text.ofString "null"
  | .bool true => Text.ofString "true"
  | .bool false => Text.ofString "false"
  | .int value => Text.ofString (toString value)
  | .float (.finite value) => floatText value
  | .float .nan => Text.ofString "NaN"
  | .float (.infinity false) => Text.ofString "Infinity"
  | .float (.infinity true) => Text.ofString "-Infinity"
  | .str text => quote text
  | .list items => Text.ofString "[" ++ writtenItems items ++ Text.ofString "]"
  | .dict entries => Text.ofString "\x7b" ++ writtenEntries entries ++ Text.ofString "\x7d"
  | .refused _ => []

def writtenItems : List PyObject → Text
  | [] => []
  | [item] => written item
  | item :: next :: items => written item ++ Text.ofString ", " ++ writtenItems (next :: items)

def writtenEntries : List (Text × PyObject) → Text
  | [] => []
  | [(key, value)] => quote key ++ Text.ofString ": " ++ written value
  | (key, value) :: next :: entries =>
    quote key ++ Text.ofString ": " ++ written value ++ Text.ofString ", " ++
      writtenEntries (next :: entries)

end

/-- `json.dumps(value, sort_keys=True)` -/
def dumps (value : PyObject) : Except String Text :=
  match refusal value with
  | some error => .error error
  | none => .ok (written floatText value)

end Written

mutual

/-- `json.loads(json.dumps(value, allow_nan=False))` -/
def convert : PyObject → Except String Json
  | .null => .ok .null
  | .bool value => .ok (.bool value)
  | .int value => .ok (.int value)
  | .float (.finite value) => .ok (.float (.finite value))
  | .float _ => .error "ValueError"
  | .str text => .ok (.str text)
  | .list items =>
    match convertItems items with
    | .error error => .error error
    | .ok items => .ok (.arr items)
  | .dict entries =>
    match convertEntries [] entries with
    | .error error => .error error
    | .ok fields => .ok (.obj fields)
  | .refused error => .error error

def convertItems : List PyObject → Except String (List Json)
  | [] => .ok []
  | item :: items =>
    match convert item, convertItems items with
    | .error error, _ => .error error
    | .ok _, .error error => .error error
    | .ok item, .ok items => .ok (item :: items)

def convertEntries (fields : JsonObject) : List (Text × PyObject) → Except String JsonObject
  | [] => .ok fields
  | (key, value) :: entries =>
    match convert value with
    | .error error => .error error
    | .ok value => convertEntries (Json.setField fields key value) entries

end

mutual

/-- A decoded value as an object, with the keys sorted. -/
def ofJson : Json → PyObject
  | .null => .null
  | .bool value => .bool value
  | .int value => .int value
  | .float value => .float value
  | .str text => .str text
  | .arr items => .list (ofItems items)
  | .obj fields => .dict ((ofFields fields).insertionSort fun first second => first.1 ≤ second.1)

def ofItems : List Json → List PyObject
  | [] => []
  | item :: items => ofJson item :: ofItems items

def ofFields : JsonObject → List (Text × PyObject)
  | [] => []
  | (name, value) :: fields => (name, ofJson value) :: ofFields fields

end

end PyObject

/-! ## Loading the modules -/

/-- Candidate code while it is executed, over the objects of its modules. -/
inductive Execution (σ : Type) where
  | done (state : σ)
  | raised (error : String) (state : σ)
  | imports (name : Text) (level : ℕ) (state : σ)
      (resume : Except String Unit → σ → Execution σ)

/-- The end of a call: the objects, the arguments as the encoder finds them
after the conversion of the value, and the value or the class of an exception. -/
structure Called (σ : Type) where
  state : σ
  left : PyObject
  ending : Except String PyObject

/-- What the runner does not decide. -/
structure Candidate (σ : Type) where
  /-- New module objects, and the standard library as the container has it. -/
  fresh : σ
  /-- The exception of `checked_tree`. -/
  checked_tree : Text → List Text → Option String
  /-- The execution of a module. -/
  body : Text → σ → Execution σ
  /-- The import of a standard module. -/
  standardImport : Text → σ → Except String Unit × σ
  /-- A module has a callable of this name. -/
  hasCallable : σ → Text → Text → Bool
  call : σ → Text → Text → List Json → JsonObject → Called σ
  floatText : ℚ → Text

def ALLOWED_MODULES : List Text :=
  ["math", "re", "collections", "itertools", "functools", "heapq", "bisect", "statistics",
    "datetime", "decimal", "fractions", "json", "string"].map Text.ofString

def beforeMark (mark : ℕ) (text : Text) : Text := text.takeWhile fun point => point.val ≠ mark

def afterMark (mark : ℕ) (text : Text) : Text :=
  (text.dropWhile fun point => point.val ≠ mark).drop 1

/-- `name[:-3]` -/
def moduleName (file : Text) : Text := file.take (file.length - 3)

section Loading

variable {σ : Type} (candidate : Candidate σ) (files : Files)

/-- The locals of `load_entry`. -/
structure Loader (σ : Type) where
  state : σ
  loaded : List Text
  loading : List Text

def modules : List Text := (Dict.keys files).map moduleName

def restricted_import (name : Text) (level : ℕ) (loader : Loader σ) :
    Except String Unit × Loader σ :=
  if level ≠ 0 ∨ beforeMark 0x2E name ∉ ALLOWED_MODULES then (.error "ImportError", loader)
  else
    ((candidate.standardImport name loader.state).1,
      { loader with state := (candidate.standardImport name loader.state).2 })

/-- Execute code, with what it imports. -/
def execute (importer : Text → ℕ → Loader σ → Except String Unit × Loader σ) :
    Execution σ → Loader σ → Except String Unit × Loader σ
  | .done state, loader => (.ok (), { loader with state := state })
  | .raised error state, loader => (.error error, { loader with state := state })
  | .imports name level state resume, loader =>
    let imported := importer name level { loader with state := state }
    execute importer (resume imported.1 imported.2.state) imported.2

/-- The importer of `load_entry`, over its `load`. -/
def importer (load : Text → Loader σ → Except String Unit × Loader σ) (name : Text) (level : ℕ)
    (loader : Loader σ) : Except String Unit × Loader σ :=
  if level ≠ 0 then (.error "ImportError", loader)
  else if name ∈ modules files then load name loader
  else restricted_import candidate name level loader

/-- `load`.  A nested load has one more name in `loading`, so after as many as
there are modules the name is among them. -/
def load : ℕ → Text → Loader σ → Except String Unit × Loader σ
  | 0, _, loader => (.error "ImportError", loader)
  | nested + 1, name, loader =>
    if name ∈ loader.loading then (.error "ImportError", loader)
    else if name ∈ loader.loaded then (.ok (), loader)
    else
      let ended := execute (importer candidate files (load nested))
        (candidate.body name loader.state) { loader with loading := name :: loader.loading }
      match ended.1 with
      -- An exception leaves the name in `loading`.
      | .error error => (.error error, ended.2)
      | .ok _ => (.ok (), { ended.2 with
          loaded := name :: ended.2.loaded
          loading := ended.2.loading.erase name })

/-- The first exception of the syntactic checks. -/
def checkTrees : List (Text × Text) → Option String
  | [] => none
  | (_, source) :: rest => (candidate.checked_tree source (modules files)).or (checkTrees rest)

/-- `load_entry`: the objects with which the function can be called. -/
def load_entry (entrypoint : Text) : Except String σ :=
  match checkTrees candidate files files.rows with
  | some error => .error error
  | none =>
    let ended := load candidate files ((modules files).length + 1) (beforeMark 0x3A entrypoint)
      ⟨candidate.fresh, [], []⟩
    match ended.1 with
    | .error error => .error error
    | .ok _ =>
      if candidate.hasCallable ended.2.state (beforeMark 0x3A entrypoint)
          (afterMark 0x3A entrypoint) then .ok ended.2.state
      else .error "ValueError"

end Loading

/-! ## The loop over the cases -/

structure ResultRow where
  name : Text
  actual : Json
  error : Option String
  input_mutated : Bool

open Sandbox (CleanCase Payload)

/-- `[case["args"], case.get("kwargs", {})]` -/
def inputs (case : CleanCase) : PyObject :=
  .ofJson (.arr [.arr case.args, .obj case.kwargs])

section Loop

variable {σ : Type} (candidate : Candidate σ)

/-- The end of the `try` of a case. -/
structure Tried (σ : Type) where
  state : σ
  left : PyObject
  actual : Except String Json

/-- The call and the conversion, once the function is there. -/
def tryCall (entrypoint : Text) (case : CleanCase) (state : σ) : Tried σ :=
  let called := candidate.call state (beforeMark 0x3A entrypoint) (afterMark 0x3A entrypoint)
    case.args case.kwargs
  ⟨called.state, called.left, called.ending.bind PyObject.convert⟩

/-- The row of a case.  Neither of the two texts is inside the `try`. -/
def resultRow (case : CleanCase) (tried : Tried σ) : Except String ResultRow :=
  match PyObject.dumps candidate.floatText (inputs case),
      PyObject.dumps candidate.floatText tried.left with
  | .error error, _ => .error error
  | .ok _, .error error => .error error
  | .ok before, .ok after => .ok {
      name := case.name
      actual := match tried.actual with | .ok actual => actual | .error _ => .null
      error := match tried.actual with | .ok _ => none | .error error => some error
      input_mutated := decide (before ≠ after) }

/-- The `try` of a case of a repository: it loads the modules afresh. -/
def tryRepository (files : Files) (entrypoint : Text) (case : CleanCase) : Tried σ :=
  match load_entry candidate files entrypoint with
  | .error error => ⟨candidate.fresh, inputs case, .error error⟩
  | .ok state => tryCall candidate entrypoint case state

def repositoryRows (files : Files) (entrypoint : Text) :
    List CleanCase → Except String (List ResultRow)
  | [] => .ok []
  | case :: cases =>
    match resultRow candidate case (tryRepository candidate files entrypoint case) with
    | .error error => .error error
    | .ok row =>
      match repositoryRows files entrypoint cases with
      | .error error => .error error
      | .ok rows => .ok (row :: rows)

/-- The cases of a single file share one loading. -/
def fileRows (entrypoint : Text) : List CleanCase → σ → Except String (List ResultRow)
  | [], _ => .ok []
  | case :: cases, state =>
    let tried := tryCall candidate entrypoint case state
    match resultRow candidate case tried with
    | .error error => .error error
    | .ok row =>
      match fileRows entrypoint cases tried.state with
      | .error error => .error error
      | .ok rows => .ok (row :: rows)

end Loop

/-! ## The input -/

def isLower (point : CodePoint) : Bool := decide (97 ≤ point.val ∧ point.val ≤ 122)

def isWord (point : CodePoint) : Bool :=
  decide ((97 ≤ point.val ∧ point.val ≤ 122) ∨ (48 ≤ point.val ∧ point.val ≤ 57) ∨
    point.val = 0x5F)

/-- `[a-z][a-z0-9_]{0,more}` -/
def identifier (more : ℕ) (text : Text) : Bool :=
  match text with
  | [] => false
  | first :: rest => isLower first && rest.all isWord && decide (rest.length ≤ more)

/-- `"__" in text` -/
def dunder : Text → Bool
  | first :: second :: rest =>
    decide (first.val = 0x5F ∧ second.val = 0x5F) || dunder (second :: rest)
  | _ => false

def fileName (name : Text) : Bool :=
  identifier 39 (moduleName name) && decide (name = moduleName name ++ Text.ofString ".py") &&
    !dunder name

def entrypointName (entrypoint : Text) : Bool :=
  identifier 39 (beforeMark 0x3A entrypoint) && identifier 59 (afterMark 0x3A entrypoint) &&
    decide (entrypoint =
      beforeMark 0x3A entrypoint ++ Text.ofString ":" ++ afterMark 0x3A entrypoint) &&
    !dunder entrypoint

/-- The exception of the checks of a repository. -/
def repositoryError (files : Files) (entrypoint : Text) : Option String :=
  if ¬ (1 ≤ files.rows.length ∧ files.rows.length ≤ 8) ∨
      ¬ (Dict.keys files).all fileName then some "ValueError"
  else
    match encodedSum (files.rows.map Prod.snd) with
    | none => some "UnicodeEncodeError"
    | some size =>
      if size > 40000 then some "ValueError"
      else if ¬ entrypointName entrypoint ∨
          beforeMark 0x3A entrypoint ++ Text.ofString ".py" ∉ Dict.keys files then
        some "ValueError"
      else if (modules files).any (fun name => name ∈ ALLOWED_MODULES) then some "ValueError"
      else none

def solutionFile : Text := Text.ofString "solution.py"

section Main

variable {σ : Type} (candidate : Candidate σ)

/-- The rows before they are printed. -/
def rowsOf : Payload → Except String (List ResultRow)
  | .repository files entrypoint cases =>
    match repositoryError files entrypoint with
    | some error => .error error
    | none =>
      if cases.length > 24 then .error "ValueError"
      else repositoryRows candidate files entrypoint cases
  | .file source function_name cases =>
    let entrypoint := Text.ofString "solution:" ++ function_name
    if cases.length > 24 then .error "ValueError"
    else
      match load_entry candidate (Dict.set ∅ solutionFile source) entrypoint with
      | .error error => .error error
      | .ok state => fileRows candidate entrypoint cases state

/-- `main`: the printed rows, or the class of the exception in "runner_error".
The rows are printed without NaN and infinities. -/
def main (payload : Payload) : Except String (List ResultRow) :=
  match rowsOf candidate payload with
  | .error error => .error error
  | .ok rows => if rows.all (fun row => row.actual.isStandard) then .ok rows else .error "ValueError"

end Main

end Runner

end ForgeRL
