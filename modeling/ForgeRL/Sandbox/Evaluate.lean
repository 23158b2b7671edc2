import ForgeRL.Sandbox.Grader
import ForgeRL.Library.RoundTrip
import ForgeRL.Bench.Engine
import Mathlib.Data.List.Infix

namespace ForgeRL

open Library

/-!
# Execution and host grading

`evaluate` sends the inputs of the cases to the executor and grades what comes
back on the host.  What the executor sends is untrusted: it is validated, and
an error takes the place of whatever does not validate.

The two versions of the sandbox share the executor and the grading of a case.
The first grades one source file, the second a repository of flat modules.
What the language does with strings and with deep values, and the two syntactic
validators, are parameters; a rejection always has a message.
-/

structure Host where
  /-- `str.lower` -/
  lower : Text → Text
  /-- `repr` of a finite float. -/
  floatText : ℚ → Text
  /-- `repr` of a string. -/
  quote : Text → Text
  /-- `math.isclose` of two finite floats. -/
  close : ℚ → ℚ → Bool
  /-- How deep the JSON encoder nests. -/
  depth : ℕ
  /-- `sandbox.validate_source` -/
  validate_source : Text → Text → Except Sandbox.Rejection Unit
  /-- `bench.sandbox.validate_files` -/
  validate_files : Files → Text → Except Sandbox.Rejection Unit
  floatText_ne : ∀ value, floatText value ≠ []
  source_message_ne : ∀ source name, validate_source source name ≠ .error (.rejected "")
  files_message_ne : ∀ files entrypoint, validate_files files entrypoint ≠ .error (.rejected "")

namespace Sandbox

section Str

variable (host : Host)

mutual

/-- `repr` of a decoded value. -/
def repr : Json → Text
  | .null => Text.ofString "None"
  | .bool true => Text.ofString "True"
  | .bool false => Text.ofString "False"
  | .int value => Text.ofString (toString value)
  | .float (.finite value) => host.floatText value
  | .float .nan => Text.ofString "nan"
  | .float (.infinity false) => Text.ofString "inf"
  | .float (.infinity true) => Text.ofString "-inf"
  | .str text => host.quote text
  | .arr items => Text.ofString "[" ++ reprItems items ++ Text.ofString "]"
  | .obj fields => Text.ofString "\x7b" ++ reprFields fields ++ Text.ofString "\x7d"

def reprItems : List Json → Text
  | [] => []
  | [item] => repr item
  | item :: next :: items => repr item ++ Text.ofString ", " ++ reprItems (next :: items)

def reprFields : JsonObject → Text
  | [] => []
  | [(name, value)] => host.quote name ++ Text.ofString ": " ++ repr value
  | (name, value) :: next :: fields =>
    host.quote name ++ Text.ofString ": " ++ repr value ++ Text.ofString ", " ++
      reprFields (next :: fields)

end

/-- `str` of a decoded value. -/
def str : Json → Text
  | .str text => text
  | value => repr host value

end Str

/-! ## Payloads -/

def MAX_PAYLOAD_BYTES : ℕ := 65536

def MAX_CASES : ℕ := 24

/-- The inputs of a case, which are all that the executor sees of it. -/
structure CleanCase where
  name : Text
  args : List Json
  kwargs : JsonObject

def CleanCase.fields (case : CleanCase) : JsonObject :=
  [(Text.ofString "name", .str case.name), (Text.ofString "args", .arr case.args),
    (Text.ofString "kwargs", .obj case.kwargs)]

def cleanCase? (row : JsonObject) : Option CleanCase :=
  match Json.field? row "name", Json.field? row "args",
      (Json.field? row "kwargs").getD (.obj []) with
  | some (.str name), some (.arr args), .obj kwargs => some ⟨name, args, kwargs⟩
  | _, _, _ => none

/-- The loop over the cases of a request. -/
def cleanRows? : List Json → Option (List CleanCase)
  | [] => some []
  | .obj row :: rows =>
    match cleanCase? row with
    | none => none
    | some case => (cleanRows? rows).map (case :: ·)
  | _ :: _ => none

/-- The cases of a task are objects. -/
def cleanCases? (rows : List JsonObject) : Option (List CleanCase) :=
  cleanRows? (rows.map Json.obj)

inductive Payload where
  | file (source function_name : Text) (cases : List CleanCase)
  | repository (files : Files) (entrypoint : Text) (cases : List CleanCase)

namespace Payload

def cases : Payload → List CleanCase
  | .file _ _ cases => cases
  | .repository _ _ cases => cases

def casesJson (cases : List CleanCase) : Json := .arr (cases.map fun case => .obj case.fields)

def json : Payload → Json
  | .file source function_name cases => Json.object [
      ("source", .str source),
      ("function_name", .str function_name),
      ("cases", casesJson cases)]
  | .repository files entrypoint cases => Json.object [
      ("kind", Json.string "repository-v2"),
      ("files", filesJson files),
      ("entrypoint", .str entrypoint),
      ("cases", casesJson cases)]

end Payload

/-! ### Packing

Both versions clean the cases and encode the request, within the same limits;
they differ in what they say when they refuse.
-/

/-- The messages of a refused request. -/
structure Refusals where
  collection : String
  case : String
  size : String

def sourceRefusals : Refusals where
  collection := "Invalid case collection"
  case := "Invalid input case"
  size := "Execution payload exceeds the input limit"

def repositoryRefusals : Refusals where
  collection := "Invalid repository case collection"
  case := "Invalid repository input case"
  size := "Repository execution payload exceeds input limit"

/-- Why a request is not packed.  NaN, an infinity and an integer of more than
4300 digits raise `ValueError`. -/
inductive Unpacked where
  /-- `SandboxRejected` -/
  | rejected (message : String)
  | recursionError
  | valueError

section Packing

variable (floatText : ℚ → Text) (depth : ℕ) (refusals : Refusals)

/-- The encoding of a payload, which is ASCII.  The encoder nests only so deep. -/
def encode (payload : Payload) : Except Unpacked Text :=
  if depth < Json.nesting payload.json then .error .recursionError
  else if ¬ payload.json.isStandard ∨ ¬ Json.intsShort payload.json then .error .valueError
  else
    let encoded := Json.dumps floatText Json.compactSeparators payload.json
    if encoded.length > MAX_PAYLOAD_BYTES then .error (.rejected refusals.size) else .ok encoded

/-- The end of `_payload` and of `bench.sandbox.payload`: the clean payload and
its bytes. -/
def pack (payload : List CleanCase → Payload) (rows : List Json) :
    Except Unpacked (Payload × Text) :=
  if rows.length > MAX_CASES then .error (.rejected refusals.collection)
  else
    match cleanRows? rows with
    | none => .error (.rejected refusals.case)
    | some clean =>
      match encode floatText depth refusals (payload clean) with
      | .error refused => .error refused
      | .ok encoded => .ok (payload clean, encoded)

end Packing

/-- What `evaluate` meets of a request that is not packed. -/
def Unpacked.rejection : Unpacked → Rejection
  | .rejected message => .rejected message
  | .recursionError => .escaped .other
  | .valueError => .escaped (.valueError "Out of range")

def packed (result : Except Unpacked (Payload × Text)) : Except Rejection Payload :=
  match result with
  | .error refused => .error refused.rejection
  | .ok (clean, _) => .ok clean

/-- `_payload` -/
def source_payload (host : Host) (source function_name : Text) (cases : List JsonObject) :
    Except Rejection Payload :=
  match host.validate_source source function_name with
  | .error rejection => .error rejection
  | .ok _ =>
    packed (pack host.floatText host.depth sourceRefusals (.file source function_name)
      (cases.map Json.obj))

end Sandbox

/-- `bench.sandbox.payload` -/
def RepoSandbox.payload (host : Host) (files : Files) (entrypoint : Text)
    (cases : List JsonObject) : Except Sandbox.Rejection Sandbox.Payload :=
  match host.validate_files files entrypoint with
  | .error rejection => .error rejection
  | .ok _ =>
    Sandbox.packed (Sandbox.pack host.floatText host.depth Sandbox.repositoryRefusals
      (.repository files entrypoint) (cases.map Json.obj))

namespace Sandbox

/-- `_validated_payload`: the executor's client validates once more. -/
def validated_payload (host : Host) : Payload → Except Rejection Payload
  | .file source function_name cases =>
    source_payload host source function_name (cases.map CleanCase.fields)
  | .repository files entrypoint cases =>
    RepoSandbox.payload host files entrypoint (cases.map CleanCase.fields)

/-! ## The executor -/

/-- What a broker answers. -/
inductive BrokerReply where
  | unreachable
  /-- The answer nests too deep for the decoder. -/
  | tooDeep
  | oversized
  | undecodable
  | value (decoded : Json)

/-- How a container ends. -/
inductive DockerRun where
  /-- The image name is refused, or the client does not start. -/
  | unavailable (message : String)
  /-- The time or output limit is reached. -/
  | limited
  /-- The client does not end when it is killed, or its output nests too deep
  for the decoder. -/
  | broken
  /-- The exit code, the output in lower case, and its decoded value. -/
  | exited (returncode : ℤ) (diagnostic : Text) (decoded : Option Json)

inductive Executor where
  | broker (reply : BrokerReply)
  | docker (run : DockerRun)

/-- A row of a validated result. -/
structure Row where
  name : Text
  actual : Json
  input_mutated : Bool
  error : Option Text

/-- A validated result. -/
inductive Validated where
  | execution_error (message : Text)
  | cases (rows : List Row)

/-- `row.get("error")`, when it is a string or missing. -/
def errorOf? (row : JsonObject) : Option (Option Text) :=
  match Json.field? row "error" with
  | none | some .null => some none
  | some (.str text) => some (some text)
  | some _ => none

def rowOf? (expected : CleanCase) : Json → Option Row
  | .obj row =>
    match Json.field? row "name", Json.field? row "actual", Json.field? row "input_mutated",
        errorOf? row with
    | some (.str name), some actual, some (.bool input_mutated), some error =>
      if name = expected.name then some ⟨name, actual, input_mutated, error⟩ else none
    | _, _, _, _ => none
  | _ => none

def rowsOf? : List CleanCase → List Json → Option (List Row)
  | case :: cases, row :: rows =>
    match rowOf? case row with
    | none => none
    | some valid => (rowsOf? cases rows).map (valid :: ·)
  | _, _ => some []

/-- `_validate_result` -/
def validate_result (host : Host) (result : Json) (cases : List CleanCase) : Validated :=
  match result with
  | .obj fields =>
    match Json.field? fields "execution_error" with
    | some error => .execution_error ((str host error).take 200)
    | none =>
      match Json.field? fields "cases" with
      | some (.arr rows) =>
        if rows.length ≠ cases.length then
          .execution_error (Text.ofString "Runner result count mismatch")
        else
          match rowsOf? cases rows with
          | none => .execution_error (Text.ofString "Runner result identity mismatch")
          | some valid => .cases valid
      | _ => .execution_error (Text.ofString "Runner result count mismatch")
  | _ => .execution_error (Text.ofString "Malformed runner result")

def infrastructure_errors : List Text :=
  ["cannot connect to the docker daemon", "permission denied while trying to connect",
    "error during connect", "failed to connect"].map Text.ofString

/-- `execute_docker` -/
def execute_docker (host : Host) (payload : Payload) (run : DockerRun) :
    Except Rejection Validated :=
  match validated_payload host payload with
  | .error rejection => .error rejection
  | .ok clean =>
    match run with
    | .unavailable message => .error (.escaped (.sandboxUnavailable message))
    | .limited =>
      .ok (.execution_error (Text.ofString "Execution timeout or output limit exceeded"))
    | .broken => .error (.escaped .other)
    | .exited returncode diagnostic decoded =>
      if returncode = 125 ∨ returncode = 127 then
        .error (.escaped (.sandboxUnavailable "Sandbox image or Docker runtime is unavailable"))
      else if returncode ≠ 0 then
        if ∃ pattern ∈ infrastructure_errors, pattern <:+: diagnostic then
          .error (.escaped (.sandboxUnavailable "Docker executor connection is unavailable"))
        else
          .ok (.execution_error
            (Text.ofString "Isolated runner failed or exceeded its resource limits"))
      else
        match decoded with
        | none => .ok (.execution_error (Text.ofString "Runner returned invalid bounded output"))
        | some result => .ok (validate_result host result clean.cases)

/-- `isinstance(result, dict) and result.get("unavailable")` -/
def isUnavailable : Json → Bool
  | .obj fields =>
    match Json.field? fields "unavailable" with
    | some value => !value.isFalsy
    | none => false
  | _ => false

/-- `execute_broker` -/
def execute_broker (host : Host) (payload : Payload) (reply : BrokerReply) :
    Except Rejection Validated :=
  match validated_payload host payload with
  | .error rejection => .error rejection
  | .ok clean =>
    match reply with
    | .unreachable =>
      .error (.escaped (.sandboxUnavailable "Isolated executor is temporarily unavailable"))
    | .oversized =>
      .error (.escaped (.sandboxUnavailable "Executor response exceeded transport limit"))
    | .tooDeep => .error (.escaped .other)
    | .undecodable =>
      .error (.escaped (.sandboxUnavailable "Executor returned an invalid response"))
    | .value result =>
      if isUnavailable result then
        .error (.escaped (.sandboxUnavailable "Isolated executor is temporarily unavailable"))
      else .ok (validate_result host result clean.cases)

def execute (host : Host) (payload : Payload) : Executor → Except Rejection Validated
  | .broker reply => execute_broker host payload reply
  | .docker run => execute_docker host payload run

/-- The `except SandboxRejected` around an execution. -/
def catchRejected (outcome : Except Rejection Validated) : Except Escape Validated :=
  match outcome with
  | .ok validated => .ok validated
  | .error (.rejected message) => .ok (.execution_error (Text.ofString message))
  | .error (.escaped escape) => .error escape

/-! ## Grading -/

/-- `case["name"]` or `case["expected"]` without the key. -/
def keyError : Escape := .other

/-- The task forbids its functions to modify their inputs. -/
def forbidsMutation (host : Host) (description : Text) : Bool :=
  ["do not modify", "do not mutate", "must remain unchanged"].any fun phrase =>
    Text.ofString phrase <:+: host.lower description

/-- `case.get("expected_error")`, when it counts as true. -/
def expectedError? (case : JsonObject) : Option Json :=
  match Json.field? case "expected_error" with
  | some error => if error.isFalsy then none else some error
  | none => none

/-- `error == expected_error`, for an error that is a string or missing and an
expected one that counts as true. -/
def sameError (error : Option Text) (expected : Json) : Bool :=
  match error, expected with
  | some text, .str other => text = other
  | _, _ => false

def errorJson (error : Option Text) : Json :=
  match error with
  | some text => .str text
  | none => .null

/-- A graded case, before it is exported. -/
structure Graded where
  passed : Bool
  actual : Json
  error : Option Text

/-- The row of a case; a result without rows has none. -/
def Validated.row? (validated : Validated) (index : ℕ) : Option Row :=
  match validated with
  | .cases rows => rows[index]?
  | .execution_error _ => none

/-- `result.get("execution_error")` -/
def Validated.message? (validated : Validated) : Option Text :=
  match validated with
  | .execution_error message => some message
  | .cases _ => none

/-- The message of an execution error, when it counts as true. -/
def Validated.error? (validated : Validated) : Option Text :=
  validated.message?.filter (fun message => message ≠ [])

/-- The body of the loop of `evaluate`. -/
def gradeCase (host : Host) (no_mutation : Bool) (validated : Validated) (index : ℕ)
    (case : JsonObject) : Except Escape Graded :=
  let row := validated.row? index
  let actual := (row.map Row.actual).getD .null
  let error := row.bind Row.error
  match validated.error? with
  | some message => .ok ⟨false, actual, some message⟩
  | none =>
    if no_mutation = true ∧ (row.map Row.input_mutated).getD false = true then
      .ok ⟨false, actual, some (Text.ofString "InputMutation")⟩
    else
      match expectedError? case with
      | some expected => .ok ⟨sameError error expected, actual, error⟩
      | none =>
        if error.isSome then .ok ⟨false, actual, error⟩
        else
          match Json.field? case "expected" with
          | none => .error keyError
          | some expected =>
            match same host.close actual expected with
            | .error escape => .error escape
            | .ok passed => .ok ⟨passed, actual, error⟩

/-- An exported row.  Nothing but the count leaves a hidden grading. -/
structure GradedRow where
  name : Json
  passed : Bool
  actual : Json
  error : Json

def exportRow (hidden : Bool) (name : Json) (graded : Graded) : GradedRow where
  name := name
  passed := graded.passed
  actual := if hidden then .null else graded.actual
  error :=
    if hidden then if graded.passed then .null else Json.string "Held-out case failed"
    else errorJson graded.error

structure Evaluation where
  passed : ℕ
  total : ℕ
  cases : List GradedRow

/-- The loop of `evaluate`, from some index on. -/
def gradeFrom (host : Host) (hidden no_mutation : Bool)
    (nameOf : ℕ → JsonObject → Except Escape Json) (validated : Validated) :
    ℕ → List JsonObject → Except Escape (List GradedRow)
  | _, [] => .ok []
  | index, case :: cases =>
    match gradeCase host no_mutation validated index case with
    | .error escape => .error escape
    | .ok graded =>
      match nameOf index case with
      | .error escape => .error escape
      | .ok name =>
        match gradeFrom host hidden no_mutation nameOf validated (index + 1) cases with
        | .error escape => .error escape
        | .ok rows => .ok (exportRow hidden name graded :: rows)

def summary (rows : List GradedRow) : Evaluation :=
  ⟨rows.countP GradedRow.passed, rows.length, rows⟩

/-- `case["name"]` -/
def caseName (case : JsonObject) : Except Escape Json :=
  match Json.field? case "name" with
  | some name => .ok name
  | none => .error keyError

/-! ### One source file -/

/-- A task of the first version, as far as it is graded. -/
structure Task where
  description : Text
  function_name : Text
  public_cases : List JsonObject
  hidden_cases : List JsonObject

def Task.cases (task : Task) (hidden : Bool) : List JsonObject :=
  if hidden then task.hidden_cases else task.public_cases

/-- The `try` of `evaluate`. -/
def executed (host : Host) (task : Task) (source : Text) (hidden : Bool) (executor : Executor) :
    Except Escape Validated :=
  catchRejected <|
    match source_payload host source task.function_name (task.cases hidden) with
    | .error rejection => .error rejection
    | .ok payload => execute host payload executor

/-- `sandbox.evaluate` -/
def evaluate (host : Host) (task : Task) (source : Text) (hidden : Bool) (executor : Executor) :
    Except Escape Evaluation :=
  match executed host task source hidden executor with
  | .error escape => .error escape
  | .ok validated =>
    (gradeFrom host hidden (forbidsMutation host task.description) (fun _ case => caseName case)
      validated 0 (task.cases hidden)).map summary

end Sandbox

/-! ### A repository -/

namespace RepoSandbox

open Sandbox

/-- The cases that an evaluation runs. -/
def cases (task : RepoTask) (hidden : Bool) : List JsonObject :=
  if hidden then task.hidden_cases else task.public_cases

/-- The `try` of `evaluate`. -/
def executed (host : Host) (task : RepoTask) (files : Files) (hidden : Bool)
    (executor : Executor) : Except Escape Validated :=
  catchRejected <|
    match validate_edits host.validate_files task files with
    | .error rejection => .error rejection
    | .ok _ =>
      match payload host files task.entrypoint (cases task hidden) with
      | .error rejection => .error rejection
      | .ok clean => execute host clean executor

/-- Hidden cases are renamed. -/
def rowName (hidden : Bool) (index : ℕ) (case : JsonObject) : Except Escape Json :=
  if hidden then .ok (Json.string ("heldout-" ++ toString (index + 1))) else caseName case

structure RepoEvaluation extends Evaluation where
  execution_error : Option Text

/-- `bench.sandbox.evaluate` -/
def evaluate (host : Host) (task : RepoTask) (files : Files) (hidden : Bool)
    (executor : Executor) : Except Escape RepoEvaluation :=
  match executed host task files hidden executor with
  | .error escape => .error escape
  | .ok validated =>
    (gradeFrom host hidden (forbidsMutation host task.description) (rowName hidden) validated 0
      (cases task hidden)).map fun rows => ⟨summary rows, validated.message?⟩

end RepoSandbox

end ForgeRL
