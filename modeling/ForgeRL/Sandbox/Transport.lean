import ForgeRL.Sandbox.Containment
import ForgeRL.Sandbox.HostGrading

namespace ForgeRL

open Library

/-!
# The executor behind its broker

A request is executed directly, or it is sent over a socket to the broker,
which executes it.  On the second way the request is written as one line, read
within a limit, decoded and validated once more; the answer is written, read in
pieces, decoded and validated in its turn.  Both ways give the same result.

The texts on the socket are ASCII, so their lengths count bytes.

The decoder fails in one way here: a text that nests too deep counts as invalid
JSON.  In the source it raises `RecursionError`, which the clauses for invalid
JSON do not catch; `container_result`, `request` and `answered` then differ from
it on such a text, and on no other.
-/

namespace Transport

open Ast Screen
open Sandbox (CleanCase Payload MAX_CASES MAX_PAYLOAD_BYTES validate_result rowOf? rowsOf?
  infrastructure_errors isUnavailable smallHost)

def MAX_OUTPUT_BYTES : ℕ := 65536

/-- What comes of a container. -/
inductive Outcome where
  /-- The image name is refused, or the client does not start. -/
  | unavailable (message : String)
  /-- The client does not end when it is killed. -/
  | stuck
  /-- The time or the output limit is reached. -/
  | limited
  /-- The exit code, the output in lower case, and the output when it is UTF-8. -/
  | exited (returncode : ℤ) (diagnostic : Text) (output : Option Text)

/-! ## Direct execution -/

/-- `{"execution_error": message}` -/
def executionError (message : Text) : Json := Json.object [("execution_error", .str message)]

def failed (message : String) : Json := executionError (Text.ofString message)

/-- `result.get("cases")` -/
def resultRows : Json → Json
  | .obj fields => (Json.field? fields "cases").getD .null
  | _ => .null

/-- `_validate_result`, with the object that it returns. -/
def validated_result (host : Host) (result : Json) (cases : List CleanCase) : Json :=
  match validate_result host result cases with
  | .execution_error message => executionError message
  | .cases _ => Json.object [("cases", resultRows result)]

section Executors

variable (language : Language) (host : Host)

/-- The result of `execute_docker`, once the container is done; output that
nests too deep is taken for invalid. -/
def container_result (cases : List CleanCase) : Outcome → Except Failure Json
  | .unavailable message => .error (.unavailable message)
  | .stuck => .error .timeoutExpired
  | .limited => .ok (failed "Execution timeout or output limit exceeded")
  | .exited returncode diagnostic output =>
    if returncode = 125 ∨ returncode = 127 then
      .error (.unavailable "Sandbox image or Docker runtime is unavailable")
    else if returncode ≠ 0 then
      if ∃ pattern ∈ infrastructure_errors, pattern <:+: diagnostic then
        .error (.unavailable "Docker executor connection is unavailable")
      else .ok (failed "Isolated runner failed or exceeded its resource limits")
    else
      match output.bind (Json.loads language.depth) with
      | none => .ok (failed "Runner returned invalid bounded output")
      | some result => .ok (validated_result host result cases)

/-- `execute_docker`, with the container that is given the bytes. -/
def execute_docker (container : Text → Outcome) (payload : Json) : Except Failure Json :=
  match validated_payload language payload with
  | .error failure => .error failure
  | .ok (clean, encoded) => container_result language host clean.cases (container encoded)

/-! ## The handler of the broker -/

/-- What a connection finds at the server. -/
structure Server where
  /-- The parts of `FORGERL_EXECUTOR_ALLOWED_UIDS`, when it is set. -/
  permitted : Option (List Text)
  /-- The free slots. -/
  slots : ℕ

def Server.permits (server : Server) (uid : ℕ) : Bool :=
  match server.permitted with
  | none => true
  | some parts => decide (Text.ofString (toString uid) ∈ parts)

/-- `rfile.readline(limit)` -/
def readline : ℕ → Text → Text
  | 0, _ => []
  | _ + 1, [] => []
  | limit + 1, point :: rest =>
    if point.val = 0x0A then [point] else point :: readline limit rest

/-- The request in a line; one that nests too deep is taken for invalid. -/
def request (raw : Text) : Except Failure Json :=
  if raw.length > MAX_PAYLOAD_BYTES + 1 ∨ ¬ Text.newline <:+ raw then
    .error (.rejected "Invalid executor request")
  else
    match Json.loads language.depth raw with
    | none => .error .valueError
    | some payload => .ok payload

def unavailableAnswer : Json := Json.object [("unavailable", .bool true)]

/-- The `except` clauses of the handler.  An exception that none of them
catches closes the connection. -/
def caught : Except Failure Json → Option Json
  | .ok result => some result
  | .error (.unavailable _) => some unavailableAnswer
  | .error (.rejected _) => some (failed "Executor rejected malformed request")
  | .error .valueError => some (failed "Executor rejected malformed request")
  | .error .keyError => some (failed "Executor rejected malformed request")
  | .error .typeError => some (failed "Executor rejected malformed request")
  | .error _ => none

/-- The bytes of an answer; without them the connection is closed. -/
def answer (result : Json) : Text :=
  if result.isStandard = true then
    match Json.dumps? language.floatText Json.compactSeparators language.depth result with
    | none => []
    | some encoded =>
      if encoded.length > MAX_OUTPUT_BYTES then
        Text.ofString "\x7b\"execution_error\":\"Executor output limit exceeded\"\x7d"
      else encoded
  else []

/-- What the handler executes. -/
def handled (container : Text → Outcome) (stream : Text) : Except Failure Json :=
  match request language (readline (MAX_PAYLOAD_BYTES + 2) stream) with
  | .error failure => .error failure
  | .ok payload => execute_docker language host container payload

/-- The bytes that the handler writes for a result. -/
def reply (result : Except Failure Json) : Text :=
  match caught result with
  | none => []
  | some result => answer language result

/-- `ExecutorHandler.handle`: the bytes that are written. -/
def handle (server : Server) (uid : ℕ) (container : Text → Outcome) (stream : Text) : Text :=
  if server.permits uid = true then
    if server.slots = 0 then Text.ofString "\x7b\"unavailable\":true\x7d"
    else reply language (handled language host container stream)
  else []

/-! ## The client of the broker -/

/-- The loop over `recv`, which returns the pieces one after another. -/
def receive : Text → List Text → Text
  | data, [] => data
  | data, piece :: pieces =>
    if data.length ≤ MAX_OUTPUT_BYTES ∧ piece ≠ [] then receive (data ++ piece) pieces else data

/-- What comes back for the bytes that are sent, unless the socket fails. -/
abbrev Socket := Text → Option (List Text)

/-- The result of `execute_broker`, once the answer is there; an answer that
nests too deep is taken for invalid. -/
def answered (cases : List CleanCase) (data : Text) : Except Failure Json :=
  if data.length > MAX_OUTPUT_BYTES then
    .error (.unavailable "Executor response exceeded transport limit")
  else
    match Json.loads language.depth data with
    | none => .error (.unavailable "Executor returned an invalid response")
    | some result =>
      if isUnavailable result then
        .error (.unavailable "Isolated executor is temporarily unavailable")
      else .ok (validated_result host result cases)

/-- `execute_broker` -/
def execute_broker (socket : Socket) (payload : Json) : Except Failure Json :=
  match validated_payload language payload with
  | .error failure => .error failure
  | .ok (clean, encoded) =>
    match socket (encoded ++ Text.newline) with
    | none => .error (.unavailable "Isolated executor is temporarily unavailable")
    | some pieces => answered language host clean.cases (receive [] pieces)

/-- The socket carries the bytes to the server and its answer back, in pieces. -/
def Connects (socket : Socket) (serve : Text → Text) : Prop :=
  ∀ sent, ∃ pieces, socket sent = some pieces ∧ [] ∉ pieces ∧ pieces.flatten = serve sent

/-- A container that exits with success has printed the rows of the runner on
one line within the limit. -/
def Prints : Outcome → Prop
  | .exited returncode _ output => returncode = 0 → ∃ (rows : List Json) (text : Text),
      (Json.arr rows).isStandard = true ∧ Json.FloatsRead language.floatText (.arr rows) ∧
        Json.dumps? language.floatText Json.compactSeparators language.depth
          (Json.object [("cases", .arr rows)]) = some text ∧
        output = some (text ++ Text.newline) ∧ (text ++ Text.newline).length ≤ MAX_OUTPUT_BYTES
  | _ => True

end Executors

/-- What the client of the broker is told of a result: the exceptions of the
executor stay behind the broker. -/
def viaBroker : Except Failure Json → Except Failure Json
  | .error (.unavailable _) =>
    .error (.unavailable "Isolated executor is temporarily unavailable")
  | .error .timeoutExpired => .error (.unavailable "Executor returned an invalid response")
  | result => result

/-! ## The way of a request -/

theorem readline_line {line : Text} (single : Json.OneLine line) {limit : ℕ}
    (fits : line.length < limit) : readline limit (line ++ Text.newline) = line ++ Text.newline := by
  induction line generalizing limit with
  | nil =>
      rcases limit with _ | limit
      · exact absurd fits (Nat.not_lt_zero _)
      · rfl
  | cons point line ih =>
      rcases limit with _ | limit
      · exact absurd fits (Nat.not_lt_zero _)
      · rw [Json.OneLine, List.forall_mem_cons] at single
        rw [List.cons_append, readline, if_neg single.1, ih single.2 (Nat.lt_of_succ_lt_succ fits)]

/-- The pieces of an answer within the limit are all received. -/
theorem receive_flatten {data : Text} {pieces : List Text} (whole : [] ∉ pieces)
    (fits : (data ++ pieces.flatten).length ≤ MAX_OUTPUT_BYTES) :
    receive data pieces = data ++ pieces.flatten := by
  induction pieces generalizing data with
  | nil => rw [receive, List.flatten_nil, List.append_nil]
  | cons piece pieces ih =>
      rw [List.mem_cons, not_or] at whole
      rw [List.flatten_cons, ← List.append_assoc] at fits
      have short : data.length ≤ MAX_OUTPUT_BYTES := by
        rw [List.length_append, List.length_append] at fits
        omega
      rw [receive, if_pos ⟨short, Ne.symm whole.1⟩, ih whole.2 fits, List.flatten_cons,
        List.append_assoc]

section Requests

variable {language : Language} {clean : Payload} {encoded : Text}

/-- What has been read back of an accepted payload is accepted with its bytes. -/
theorem Accepted.joined (accepted : Accepted language clean encoded)
    (apart : Json.NamesApart clean.json) : Accepted language (joinedPayload clean) encoded := by
  have json := joined_json accepted.source
  refine ⟨?_, ?_, ?_, ?_, ?_, accepted.small⟩
  · have source := accepted.source
    cases clean with
    | file source_ function_name cases =>
        exact ⟨source.1, by rw [List.length_map]; exact source.2⟩
    | repository files entrypoint cases =>
        exact ⟨source.1, by rw [List.length_map]; exact source.2⟩
  · rw [← json]
    exact (Json.nesting_joined_le _).trans accepted.shallow
  · rw [← json]
    exact Json.isStandard_joined _ accepted.standard
  · rw [← json]
    exact Json.intsShort_joined _ accepted.short
  · rw [← json, Json.dumps_joined _ _ apart]
    exact accepted.bytes

/-- The broker reads an accepted payload back from its line. -/
theorem request_line (accepted : Accepted language clean encoded)
    (floats : Json.FloatsRead language.floatText clean.json) :
    request language (readline (MAX_PAYLOAD_BYTES + 2) (encoded ++ Text.newline)) =
      .ok (joinedPayload clean).json := by
  have single : Json.OneLine encoded := by
    rw [accepted.bytes]
    exact Json.oneLine_dumps (Json.oneLine_ascii (Json.oneLine_ofString (by decide)))
      (Json.oneLine_ascii (Json.oneLine_ofString (by decide))) floats
  have small := accepted.small
  have read : Json.loads language.depth (encoded ++ Text.newline) =
      some (joinedPayload clean).json := by
    rw [accepted.bytes, Json.loads_dumps_line Json.compactSeparators_reads
      (Json.portable_of _ accepted.short floats) accepted.shallow, joined_json accepted.source]
  have fits : (encoded ++ Text.newline).length = encoded.length + 1 := List.length_append
  rw [readline_line single (by omega), request, if_neg, read]
  rw [not_or, not_not]
  exact ⟨by omega, List.suffix_append _ _⟩

end Requests

/-! ## The way of an answer -/

/-- The messages that the executor puts into a result itself. -/
def MESSAGES : List String :=
  ["Execution timeout or output limit exceeded",
    "Isolated runner failed or exceeded its resource limits",
    "Runner returned invalid bounded output", "Runner result count mismatch",
    "Runner result identity mismatch"]

/-- A result that the handler can write. -/
structure Sendable (language : Language) (result : Json) : Prop where
  standard : result.isStandard = true
  short : Json.intsShort result = true
  shallow : Json.nesting result ≤ language.depth
  floats : Json.FloatsRead language.floatText result
  small : (Json.dumps language.floatText Json.compactSeparators result).length ≤ MAX_OUTPUT_BYTES

section Answers

variable {language : Language} {host : Host} {cases : List CleanCase}

theorem answer_length_le (result : Json) : (answer language result).length ≤ MAX_OUTPUT_BYTES := by
  unfold answer
  split
  · split
    · exact Nat.zero_le _
    · split
      · decide
      · next small => exact not_lt.mp small
  · exact Nat.zero_le _

theorem reply_length_le (result : Except Failure Json) :
    (reply language result).length ≤ MAX_OUTPUT_BYTES := by
  unfold reply
  split
  · exact Nat.zero_le _
  · exact answer_length_le _

/-- The client decodes what the handler has written. -/
theorem answered_answer {result : Json} (sendable : Sendable language result) :
    answered language host cases (answer language result) =
      if isUnavailable (Json.joined result) then
        .error (.unavailable "Isolated executor is temporarily unavailable")
      else .ok (validated_result host (Json.joined result) cases) := by
  have written : answer language result =
      Json.dumps language.floatText Json.compactSeparators result := by
    rw [answer, if_pos sendable.standard, Json.dumps?, if_pos ⟨sendable.short, sendable.shallow⟩]
    exact if_neg (not_lt.mpr sendable.small)
  have portable := Json.portable_of _ sendable.short sendable.floats
  rw [answered, if_neg (not_lt.mpr (answer_length_le result)), written,
    Json.loads_dumps Json.compactSeparators_reads portable sendable.shallow]

/-- Nothing is no answer. -/
theorem answered_nothing : answered language host cases [] =
    .error (.unavailable "Executor returned an invalid response") := rfl

theorem joined_failed (message : String) : Json.joined (failed message) = failed message := by
  have text : Json.joined (.str (Text.ofString message)) = .str (Text.ofString message) :=
    congrArg Json.str (Json.joinPairs_of_isEncodable (Text.isEncodable_ofString message))
  have distinct : (["execution_error"].map Text.ofString).Nodup := List.nodup_singleton _
  rw [failed, executionError, joined_object distinct rfl]
  simp only [List.map_cons, List.map_nil, text]

/-- A message of the executor reaches the client as it is. -/
theorem answered_failed (deep : 1 ≤ language.depth) {message : String} (known : message ∈ MESSAGES) :
    answered language host cases (answer language (failed message)) = .ok (failed message) := by
  have bound : message.toList.length ≤ 200 ∧
      (Json.dumps language.floatText Json.compactSeparators (failed message)).length ≤
        MAX_OUTPUT_BYTES := by
    simp only [MESSAGES, List.mem_cons, List.not_mem_nil, or_false] at known
    rcases known with rfl | rfl | rfl | rfl | rfl
    all_goals exact ⟨by decide, Nat.le_of_ble_eq_true rfl⟩
  have sendable : Sendable language (failed message) :=
    { standard := rfl
      short := rfl
      shallow := deep
      floats := ⟨trivial, trivial⟩
      small := bound.2 }
  have fields : failed message =
      .obj [(Text.ofString "execution_error", .str (Text.ofString message))] := rfl
  have looked (value : Json) : let named := [(Text.ofString "execution_error", value)]
      Json.field? named "unavailable" = none ∧ Json.field? named "execution_error" = some value :=
    ⟨rfl, rfl⟩
  rcases looked (.str (Text.ofString message)) with ⟨missing, found⟩
  have available : isUnavailable (failed message) = false := by
    rw [fields, isUnavailable, missing]
  have valid : validated_result host (failed message) cases =
      executionError ((Text.ofString message).take 200) := by
    rw [fields, validated_result, validate_result, found]
    rfl
  have whole : (Text.ofString message).take 200 = Text.ofString message :=
    List.take_of_length_le (by rw [Text.ofString, List.length_map]; exact bound.1)
  rw [answered_answer sendable, joined_failed, available, valid, whole]
  rfl

/-! ## Rows -/

/-- The object of the rows. -/
def rowsObject (rows : List Json) : Json := Json.object [("cases", .arr rows)]

theorem rowsObject_fields (rows : List Json) :
    rowsObject rows = .obj [(Text.ofString "cases", .arr rows)] := rfl

theorem field?_rowsObject (rows : Json) : let fields := [(Text.ofString "cases", rows)]
    Json.field? fields "unavailable" = none ∧ Json.field? fields "execution_error" = none ∧
      Json.field? fields "cases" = some rows := ⟨rfl, rfl, rfl⟩

theorem isUnavailable_rowsObject (rows : List Json) : isUnavailable (rowsObject rows) = false := by
  rw [rowsObject_fields, isUnavailable, (field?_rowsObject _).1]

/-- The three results of rows. -/
theorem validated_result_rowsObject (rows : List Json) :
    validated_result host (rowsObject rows) cases =
      if rows.length ≠ cases.length then failed "Runner result count mismatch"
      else if (rowsOf? cases rows).isSome = true then rowsObject rows
      else failed "Runner result identity mismatch" := by
  rcases field?_rowsObject (.arr rows) with ⟨_, failure, found⟩
  rw [validated_result, rowsObject_fields, validate_result, failure]
  dsimp only
  rw [found]
  dsimp only
  by_cases count : rows.length ≠ cases.length
  · rw [if_pos count, if_pos count]
    rfl
  · rw [if_neg count, if_neg count]
    cases checked : rowsOf? cases rows with
    | none => rfl
    | some valid =>
        rw [Option.isSome_some, if_pos rfl, resultRows, found]
        rfl

/-- The name of a row that has been read back has been read back. -/
theorem joinPairs_name {row : JsonObject} {name : Text} (fixed : Json.joined (.obj row) = .obj row)
    (named : Json.field? row "name" = some (.str name)) : Json.joinPairs name = name := by
  rcases Option.map_eq_some_iff.mp named with ⟨field, found, value⟩
  have member : field ∈ Json.joinedFields [] row := by
    rw [Json.obj.inj fixed]
    exact List.mem_of_find?_eq_some found
  have own : ∀ field ∈ Json.joinedFields [] row, Json.joined field.2 = field.2 :=
    Json.forall_joinedFields fun source _ => Json.joined_joined source.2
  have same := own field member
  rw [value] at same
  exact Json.str.inj same

/-- A row that has been read back belongs to a case only when it belongs to the
case that has been read back. -/
theorem rowOf?_joinedCase {case : CleanCase} {row : Json} (fixed : Json.joined row = row)
    (valid : (rowOf? case row).isSome = true) : (rowOf? (joinedCase case) row).isSome = true := by
  cases row with
  | obj fields =>
      unfold rowOf? at valid ⊢
      dsimp only at valid ⊢
      split at valid
      · next name actual mutated error named given flag reported =>
          split at valid
          · next same =>
              have own := joinPairs_name fixed named
              rw [if_pos]
              · rfl
              · rw [joinedCase, ← same, own]
          · cases valid
      · cases valid
  | _ => cases valid

theorem rowsOf?_joinedCase {rows : List Json} (fixed : ∀ row ∈ rows, Json.joined row = row)
    (valid : (rowsOf? cases rows).isSome = true) :
    (rowsOf? (cases.map joinedCase) rows).isSome = true := by
  induction cases generalizing rows with
  | nil => rfl
  | cons case cases ih =>
      cases rows with
      | nil => rfl
      | cons row rows =>
          rw [List.forall_mem_cons] at fixed
          rw [rowsOf?] at valid
          rw [List.map_cons, rowsOf?]
          cases first : rowOf? case row with
          | none =>
              rw [first] at valid
              cases valid
          | some own =>
              rw [first, Option.isSome_map] at valid
              have again := rowOf?_joinedCase fixed.1 (by rw [first]; rfl)
              rcases Option.isSome_iff_exists.mp again with ⟨read, same⟩
              rw [same, Option.isSome_map]
              exact ih fixed.2 valid

theorem joined_rowsObject (rows : List Json) :
    Json.joined (rowsObject rows) = rowsObject (rows.map Json.joined) := by
  have distinct : (["cases"].map Text.ofString).Nodup := List.nodup_singleton _
  rw [rowsObject, joined_object distinct rfl, ← Json.joinedItems_eq]
  rfl

/-- The rows that both validations see give one result. -/
theorem answered_rows (deep : 1 ≤ language.depth) {rows : List Json}
    (sendable : Sendable language (rowsObject rows)) (fixed : ∀ row ∈ rows, Json.joined row = row) :
    answered language host cases
        (answer language (validated_result host (rowsObject rows) (cases.map joinedCase))) =
      .ok (validated_result host (rowsObject rows) cases) := by
  have count : MESSAGES[3]? = some "Runner result count mismatch" := rfl
  have identity : MESSAGES[4]? = some "Runner result identity mismatch" := rfl
  rw [validated_result_rowsObject, List.length_map]
  by_cases lengths : rows.length ≠ cases.length
  · rw [if_pos lengths, answered_failed deep (List.mem_of_getElem? count),
      validated_result_rowsObject, if_pos lengths]
  · rw [if_neg lengths]
    by_cases accepted : (rowsOf? (cases.map joinedCase) rows).isSome = true
    · have same : rows.map Json.joined = rows := by
        conv_rhs => rw [← List.map_id rows]
        exact List.map_congr_left fixed
      rw [if_pos accepted, answered_answer sendable, joined_rowsObject, same,
        isUnavailable_rowsObject]
      rfl
    · have refused : ¬ (rowsOf? cases rows).isSome = true :=
        fun own => accepted (rowsOf?_joinedCase fixed own)
      rw [if_neg accepted, answered_failed deep (List.mem_of_getElem? identity),
        validated_result_rowsObject, if_neg lengths, if_neg refused]

/-- The rows of the runner, as they are decoded. -/
theorem rowsObject_read {rows : List Json} {text : Text}
    (standard : (Json.arr rows).isStandard = true)
    (floats : Json.FloatsRead language.floatText (.arr rows))
    (written : Json.dumps? language.floatText Json.compactSeparators language.depth
      (rowsObject rows) = some text)
    (small : (text ++ Text.newline).length ≤ MAX_OUTPUT_BYTES) :
    Json.loads language.depth (text ++ Text.newline) = some (rowsObject (rows.map Json.joined)) ∧
      Sendable language (rowsObject (rows.map Json.joined)) := by
  unfold Json.dumps? at written
  split at written
  · next writable =>
      cases written
      have floats_ : Json.FloatsRead language.floatText (rowsObject rows) := ⟨floats, trivial⟩
      have standard_ : (rowsObject rows).isStandard = true := by
        rw [rowsObject_fields, Json.isStandard, Json.fieldsStandard, standard]
        rfl
      constructor
      · rw [Json.loads_dumps_line Json.compactSeparators_reads
          (Json.portable_of _ writable.1 floats_) writable.2, joined_rowsObject]
      · rw [← joined_rowsObject]
        exact
          { standard := Json.isStandard_joined _ standard_
            short := Json.intsShort_joined _ writable.1
            shallow := (Json.nesting_joined_le _).trans writable.2
            floats := Json.floatsRead_joined _ floats_
            small := by
              refine (Json.length_dumps_joined_le _ _ _).trans (Nat.le_trans ?_ small)
              rw [List.length_append]
              exact Nat.le_add_right _ _ }
  · cases written

/-- An unavailable executor is unavailable to the client. -/
theorem answered_unavailable (deep : 1 ≤ language.depth) :
    answered language host cases (answer language unavailableAnswer) =
      .error (.unavailable "Isolated executor is temporarily unavailable") := by
  have sendable : Sendable language unavailableAnswer :=
    { standard := rfl
      short := rfl
      shallow := deep
      floats := ⟨trivial, trivial⟩
      small := Nat.le_of_ble_eq_true rfl }
  have distinct : (["unavailable"].map Text.ofString).Nodup := List.nodup_singleton _
  have same : Json.joined unavailableAnswer = unavailableAnswer := joined_object distinct rfl
  have fields : unavailableAnswer = .obj [(Text.ofString "unavailable", .bool true)] := rfl
  have found (value : Json) :
      Json.field? [(Text.ofString "unavailable", value)] "unavailable" = some value := rfl
  have unavailable : isUnavailable unavailableAnswer = true := by
    rw [fields, isUnavailable, found]
    rfl
  rw [answered_answer sendable, same, unavailable, if_pos rfl]

/-- The client gets of a container what a direct execution gets of it. -/
theorem answered_reply (deep : 1 ≤ language.depth) {outcome : Outcome}
    (prints : Prints language outcome) :
    answered language host cases
        (reply language (container_result language host (cases.map joinedCase) outcome)) =
      viaBroker (container_result language host cases outcome) := by
  have known (index : ℕ) {message : String} (entry : MESSAGES[index]? = some message) :
      answered language host cases (reply language (.ok (failed message))) =
        .ok (failed message) := answered_failed deep (List.mem_of_getElem? entry)
  cases outcome with
  | unavailable message => exact answered_unavailable deep
  | stuck => exact answered_nothing
  | limited => exact known 0 rfl
  | exited returncode diagnostic output =>
      rw [container_result, container_result]
      split_ifs with absent failure infrastructure
      · exact answered_unavailable deep
      · exact answered_unavailable deep
      · exact known 1 rfl
      · rcases prints (not_not.mp failure) with ⟨rows, text, standard, floats, written, rfl, small⟩
        rcases rowsObject_read standard floats written small with ⟨read, sendable⟩
        rw [Option.bind_some, read]
        apply answered_rows deep sendable
        rw [List.forall_mem_map]
        exact fun row _ => Json.joined_joined row

end Answers

section Broker

variable {language : Language} {host : Host} {payload : Json} {clean : Payload} {encoded : Text}
variable {server : Server} {uid : ℕ} {container : Text → Outcome} {socket : Socket}

/-- Both ways execute the payload in one container. -/
theorem execute_broker_eq (accepted : validated_payload language payload = .ok (clean, encoded))
    (floats : Json.FloatsRead language.floatText clean.json) (apart : Json.NamesApart clean.json)
    (permitted : server.permits uid = true) (free : server.slots ≠ 0)
    (connects : Connects socket (handle language host server uid container))
    (prints : Prints language (container encoded)) :
    execute_broker language host socket payload =
      viaBroker (execute_docker language host container payload) := by
  have kept := validated_payload_ok accepted
  have deep : 1 ≤ language.depth := by
    refine Nat.le_trans ?_ kept.shallow
    cases clean <;> exact Nat.le_add_left _ _
  have cases_ : (joinedPayload clean).cases = clean.cases.map joinedCase := by
    cases clean <;> rfl
  have direct : execute_docker language host container payload =
      container_result language host clean.cases (container encoded) := by
    rw [execute_docker, accepted]
  have served : handle language host server uid container (encoded ++ Text.newline) =
      reply language
        (container_result language host (clean.cases.map joinedCase) (container encoded)) := by
    rw [handle, if_pos permitted, if_neg free, handled, request_line kept floats]
    dsimp only
    rw [execute_docker, (kept.joined apart).again]
    dsimp only
    rw [cases_]
  rcases connects (encoded ++ Text.newline) with ⟨pieces, sent, whole, flat⟩
  have received : receive [] pieces = handle language host server uid container
      (encoded ++ Text.newline) := by
    rw [receive_flatten whole, List.nil_append, flat]
    rw [List.nil_append, flat, served]
    exact reply_length_le _
  rw [execute_broker, accepted]
  dsimp only
  rw [sent]
  dsimp only
  rw [received, served, direct]
  exact answered_reply deep prints

/-- Through the broker a request runs on the bytes that a direct execution
hands to the container, and what comes of the container comes back the same. -/
theorem broker_transparent
    (accepted : validated_payload language payload = .ok (clean, encoded))
    (floats : Json.FloatsRead language.floatText clean.json) (apart : Json.NamesApart clean.json)
    (permitted : server.permits uid = true) (free : server.slots ≠ 0)
    (connects : Connects socket (handle language host server uid container))
    (prints : Prints language (container encoded)) :
    (∃ read, request language (readline (MAX_PAYLOAD_BYTES + 2) (encoded ++ Text.newline)) =
        .ok read ∧ validated_payload language read = .ok (joinedPayload clean, encoded)) ∧
      execute_broker language host socket payload =
        viaBroker (execute_docker language host container payload) := by
  have kept := validated_payload_ok accepted
  refine ⟨⟨_, request_line kept floats, (kept.joined apart).again⟩, ?_⟩
  exact execute_broker_eq accepted floats apart permitted free connects prints

end Broker

/-! ## A request with one case -/

def smallSource : Text := Text.ofString "def solve(**values):\n    return 0\n"

def smallModule : Node := .node (.plain .module) [
  functionNode "solve" [
    .node (.plain .arguments) [.node (.arg (Text.ofString "values")) []],
    .node (.plain .return_) [.node (.plain .constant) []]]]

def smallLanguage : Language where
  parse _ := .ok smallModule
  floatText _ := []
  depth := 1000

def smallPayload (kwargs : JsonObject) : Payload :=
  .file smallSource (Text.ofString "solve") [⟨Text.ofString "one", [], kwargs⟩]

/-- Two names with the same JSON text: a pair of surrogates, and the character
that they encode. -/
def sameNames : JsonObject :=
  [([CodePoint.ofNat 0xD83D, CodePoint.ofNat 0xDE00], .int 1), ([CodePoint.ofNat 0x1F600], .int 2)]

/-- A source without arguments is accepted with every case that can be written. -/
theorem smallPayload_accepted {clean : Payload}
    (source : SourceAccepted smallLanguage clean) (shallow : Json.nesting clean.json ≤ 1000)
    (standard : clean.json.isStandard = true) (short : Json.intsShort clean.json = true)
    (small : (Json.dumps smallLanguage.floatText Json.compactSeparators clean.json).length ≤
      MAX_PAYLOAD_BYTES) :
    validated_payload smallLanguage clean.json = .ok (clean,
      Json.dumps smallLanguage.floatText Json.compactSeparators clean.json) :=
  (Accepted.mk source shallow standard short rfl small).again

theorem smallPayload_floats {kwargs : JsonObject}
    (floats : Json.FieldsFloatsRead smallLanguage.floatText kwargs) :
    Json.FloatsRead smallLanguage.floatText (smallPayload kwargs).json :=
  ⟨trivial, trivial, ⟨⟨trivial, trivial, floats, trivial⟩, trivial⟩, trivial⟩

theorem smallPayload_apart : Json.NamesApart (smallPayload []).json := by
  refine ⟨by decide +kernel, trivial, trivial, ⟨⟨by decide +kernel, ?_⟩, trivial⟩, trivial⟩
  exact ⟨trivial, trivial, ⟨List.nodup_nil, trivial⟩, trivial⟩

theorem smallPayload_validated :
    validated_payload smallLanguage (smallPayload []).json = .ok (smallPayload [], Json.dumps
      smallLanguage.floatText Json.compactSeparators (smallPayload []).json) :=
  smallPayload_accepted ⟨by decide +kernel, by decide +kernel⟩ (by decide +kernel)
    (by decide +kernel) (by decide +kernel) (by decide +kernel)

/-- A server that has a slot for everyone. -/
def openServer : Server := ⟨none, 2⟩

/-- A socket that returns the whole answer at once. -/
def wholeSocket (container : Text → Outcome) : Socket := fun sent =>
  some ([handle smallLanguage smallHost openServer 0 container sent].filter (· ≠ []))

theorem wholeSocket_connects (container : Text → Outcome) :
    Connects (wholeSocket container) (handle smallLanguage smallHost openServer 0 container) := by
  intro sent
  refine ⟨_, rfl, ?_, ?_⟩
  · simp
  · by_cases empty : handle smallLanguage smallHost openServer 0 container sent = []
    · simp [empty]
    · simp [empty]

/-- The row of the case. -/
def smallRow : Json := Json.object [("name", Json.string "one"), ("actual", .int 0),
  ("error", .null), ("input_mutated", .bool false)]

def smallOutput : Text :=
  Json.dumps smallLanguage.floatText Json.compactSeparators (rowsObject [smallRow]) ++ Text.newline

theorem broker_transparent_smallPayload :
    execute_broker smallLanguage smallHost
        (wholeSocket fun _ => .exited 0 smallOutput (some smallOutput)) (smallPayload []).json =
      viaBroker (execute_docker smallLanguage smallHost
        (fun _ => .exited 0 smallOutput (some smallOutput)) (smallPayload []).json) := by
  refine (broker_transparent smallPayload_validated (smallPayload_floats trivial)
    smallPayload_apart rfl (by decide) (wholeSocket_connects _) ?_).2
  intro _
  refine ⟨[smallRow], _, rfl, ?_, rfl, rfl, by decide +kernel⟩
  exact ⟨⟨trivial, trivial, trivial, trivial, trivial⟩, trivial⟩

/-- Two names with one JSON text become one, and the client of the broker is
not told why the executor is unavailable. -/
theorem sameNames_changed :
    (∃ clean encoded read other changed,
      validated_payload smallLanguage (smallPayload sameNames).json = .ok (clean, encoded) ∧
        request smallLanguage (readline (MAX_PAYLOAD_BYTES + 2) (encoded ++ Text.newline)) =
          .ok read ∧
        validated_payload smallLanguage read = .ok (other, changed) ∧ changed ≠ encoded) ∧
      execute_docker smallLanguage smallHost (fun _ => .exited 125 [] none)
          (smallPayload []).json =
        .error (.unavailable "Sandbox image or Docker runtime is unavailable") ∧
      execute_broker smallLanguage smallHost (wholeSocket fun _ => .exited 125 [] none)
          (smallPayload []).json =
        .error (.unavailable "Isolated executor is temporarily unavailable") := by
  have accepted : validated_payload smallLanguage (smallPayload sameNames).json =
      .ok (smallPayload sameNames, Json.dumps smallLanguage.floatText Json.compactSeparators
        (smallPayload sameNames).json) :=
    smallPayload_accepted ⟨by decide +kernel, by decide +kernel⟩ (by decide +kernel)
      (by decide +kernel) (by decide +kernel) (by decide +kernel)
  have again : validated_payload smallLanguage (joinedPayload (smallPayload sameNames)).json =
      .ok (joinedPayload (smallPayload sameNames), Json.dumps smallLanguage.floatText
        Json.compactSeparators (joinedPayload (smallPayload sameNames)).json) :=
    smallPayload_accepted ⟨by decide +kernel, by decide +kernel⟩ (by decide +kernel)
      (by decide +kernel) (by decide +kernel) (by decide +kernel)
  have direct : execute_docker smallLanguage smallHost (fun _ => .exited 125 [] none)
      (smallPayload []).json =
      .error (.unavailable "Sandbox image or Docker runtime is unavailable") := by
    rw [execute_docker, smallPayload_validated]
    rfl
  refine ⟨⟨_, _, _, _, _, accepted, ?_, again, by decide +kernel⟩, direct, ?_⟩
  · exact request_line (validated_payload_ok accepted)
      (smallPayload_floats ⟨trivial, trivial, trivial⟩)
  · have prints : Prints smallLanguage (.exited 125 [] none) := fun success => by cases success
    rw [execute_broker_eq smallPayload_validated (smallPayload_floats trivial) smallPayload_apart
      rfl (by decide) (wholeSocket_connects _) prints, direct]
    rfl

end Transport

end ForgeRL
