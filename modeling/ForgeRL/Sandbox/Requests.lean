import ForgeRL.Sandbox.Loader
import ForgeRL.Sandbox.Validation
import ForgeRL.Library.Joined

namespace ForgeRL

open Library

/-!
# Requests to the executor

A request is a JSON value.  The client validates it and encodes what is left of
it, and every later reader decodes the bytes and checks them again: the server
of the broker with the same validator, and the runner in the container with
checks of its own.

Objects are read as dictionaries.  The characters of an encoded request are
ASCII, so its length is its number of bytes.
-/

namespace Transport

open Ast Screen
open Sandbox (CleanCase Payload Rejection Refusals Unpacked cleanRows? encode pack sourceRefusals
  repositoryRefusals MAX_CASES MAX_PAYLOAD_BYTES)

/-- What the language brings along. -/
structure Language where
  /-- `ast.parse` -/
  parse : Parse
  /-- `repr` of a finite float. -/
  floatText : ℚ → Text
  /-- How deep the JSON encoder and decoder nest. -/
  depth : ℕ

/-- The exceptions on the way of a request. -/
inductive Failure where
  /-- `SandboxRejected` -/
  | rejected (message : String)
  | valueError
  | keyError
  | typeError
  | recursionError
  | memoryError
  /-- `subprocess.TimeoutExpired` -/
  | timeoutExpired
  /-- `SandboxUnavailable` -/
  | unavailable (message : String)
deriving DecidableEq

/-- The exceptions of the screens. -/
def Failure.ofRejection : Rejection → Failure
  | .rejected message => .rejected message
  | .escaped .unicodeEncodeError => .valueError
  | .escaped (.valueError _) => .valueError
  | .escaped (.sandboxUnavailable message) => .unavailable message
  | .escaped _ => .memoryError

/-! ## Decoded values -/

def textOf? : Json → Option Text
  | .str text => some text
  | _ => none

/-- The values of a dictionary, when all of them are strings. -/
def textValues? (named : Dict Text Json) : Option Files :=
  if named.rows.all fun entry => (textOf? entry.2).isSome then
    some (named.mapValues fun _ value => (textOf? value).getD [])
  else none

/-- `payload.get("kind") == "repository-v2"` -/
def isRepository (fields : JsonObject) : Bool :=
  match Json.field? fields "kind" with
  | some (.str kind) => decide (kind = Text.ofString "repository-v2")
  | _ => false

/-- The exceptions of the packing. -/
def Failure.ofUnpacked : Unpacked → Failure
  | .rejected message => .rejected message
  | .recursionError => .recursionError
  | .valueError => .valueError

section Validation

variable (language : Language)

/-- The end of the two payload functions, for decoded cases. -/
def packCases (refusals : Refusals) (payload : List CleanCase → Payload) (cases : Json) :
    Except Failure (Payload × Text) :=
  match cases with
  | .arr rows =>
    match pack language.floatText language.depth refusals payload rows with
    | .error refused => .error (.ofUnpacked refused)
    | .ok packed => .ok packed
  | _ => .error (.rejected refusals.collection)

/-- `validate_source` of decoded values. -/
def validate_source_value (source function_name : Json) : Except Failure (Text × Text) :=
  match source, function_name with
  | .str source, .str function_name =>
    match validate_source language.parse source function_name with
    | .error rejection => .error (.ofRejection rejection)
    | .ok _ => .ok (source, function_name)
  | .str source, _ =>
    match Text.encodedLength? source with
    | none => .error .valueError
    | some size =>
      if size > MAX_SOURCE_BYTES then
        .error (.rejected "Source exceeds the curated repair limit")
      else .error .typeError
  | _, _ => .error (.rejected "Source exceeds the curated repair limit")

/-- `sandbox._payload` -/
def source_payload (source function_name cases : Json) : Except Failure (Payload × Text) :=
  match validate_source_value language source function_name with
  | .error failure => .error failure
  | .ok (source, function_name) =>
    packCases language sourceRefusals (.file source function_name) cases

/-- `validate_files` of decoded values.  An entrypoint that is no string
matches as little as the empty one. -/
def validate_files_value (files entrypoint : Json) : Except Failure (Files × Text) :=
  match files with
  | .obj fields =>
    let named := objectDict fields
    if ¬ (1 ≤ named.rows.length ∧ named.rows.length ≤ MAX_FILES) then
      .error (.rejected "Repository must contain one to eight flat modules")
    else if (Dict.keys named).any (fun name => !MODULE name || Runner.dunder name) then
      .error (.rejected "Only flat Python module filenames are supported")
    else
      match textValues? named with
      | none => .error (.rejected "Repository source exceeds its bounded input limit")
      | some files =>
        match validate_files language.parse files ((textOf? entrypoint).getD []) with
        | .error rejection => .error (.ofRejection rejection)
        | .ok _ => .ok (files, (textOf? entrypoint).getD [])
  | _ => .error (.rejected "Repository must contain one to eight flat modules")

/-- `bench.sandbox.payload` -/
def repository_payload (files entrypoint cases : Json) : Except Failure (Payload × Text) :=
  match validate_files_value language files entrypoint with
  | .error failure => .error failure
  | .ok (files, entrypoint) =>
    packCases language repositoryRefusals (.repository files entrypoint) cases

/-- `_validated_payload`: the clean payload and its bytes. -/
def validated_payload (payload : Json) : Except Failure (Payload × Text) :=
  match payload with
  | .obj fields =>
    if isRepository fields then
      match Json.field? fields "files", Json.field? fields "entrypoint",
          Json.field? fields "cases" with
      | some files, some entrypoint, some cases =>
        repository_payload language files entrypoint cases
      | _, _, _ => .error .keyError
    else
      match Json.field? fields "source", Json.field? fields "function_name",
          Json.field? fields "cases" with
      | some source, some function_name, some cases =>
        source_payload language source function_name cases
      | _, _, _ => .error .keyError
  | _ => .error (.rejected "Invalid executor payload")

end Validation

/-! ## The input of the runner -/

def MAX_INPUT : ℕ := 65536

/-- What the runner has read: the files, the entrypoint and the cases. -/
structure Input where
  files : Files
  entrypoint : Text
  cases : List Json

/-- The check of the cases. -/
def casesInput (fields : JsonObject) (files : Files) (entrypoint : Text) : Except String Input :=
  match Json.field? fields "cases" with
  | none => .error "KeyError"
  | some (.arr rows) =>
    if rows.length > 24 then .error "ValueError" else .ok ⟨files, entrypoint, rows⟩
  | some _ => .error "ValueError"

/-- `isinstance(files, dict)`, with strings as values. -/
def filesOf? : Json → Option Files
  | .obj fields => textValues? (objectDict fields)
  | _ => none

/-- The checks of the files alone. -/
def filesError (files : Files) : Option String :=
  if ¬ (1 ≤ files.rows.length ∧ files.rows.length ≤ 8) ∨
      ¬ (Dict.keys files).all Runner.fileName then some "ValueError"
  else
    match encodedSum (files.rows.map Prod.snd) with
    | none => some "UnicodeEncodeError"
    | some size => if size > 40000 then some "ValueError" else none

/-- The checks of a repository in `main`. -/
def repositoryInput (fields : JsonObject) : Except String Input :=
  match Json.field? fields "files", Json.field? fields "entrypoint" with
  | some files, some entrypoint =>
    match filesOf? files with
    | none => .error "ValueError"
    | some files =>
      match entrypoint with
      | .str entrypoint =>
        match Runner.repositoryError files entrypoint with
        | some error => .error error
        | none => casesInput fields files entrypoint
      | _ => .error ((filesError files).getD "TypeError")
  | _, _ => .error "KeyError"

def fileInput (fields : JsonObject) : Except String Input :=
  match Json.field? fields "source", Json.field? fields "function_name" with
  | some (.str source), some (.str function_name) =>
    casesInput fields (Dict.set ∅ Runner.solutionFile source)
      (Text.ofString "solution:" ++ function_name)
  | some _, some _ => .error "TypeError"
  | _, _ => .error "KeyError"

/-- `main` up to the first load: the input, or the class of the exception. -/
def readInput (depth : ℕ) (raw : Text) : Except String Input :=
  if raw.length > MAX_INPUT then .error "ValueError"
  else
    match Json.loads depth raw with
    | none => .error "JSONDecodeError"
    | some (.obj fields) => if isRepository fields then repositoryInput fields else fileInput fields
    | some _ => .error "AttributeError"

/-! ## What is accepted -/

/-- The screens accept the source of a payload, and its cases are not too many. -/
def SourceAccepted (language : Language) : Payload → Prop
  | .file source function_name cases =>
    validate_source language.parse source function_name = .ok () ∧ cases.length ≤ MAX_CASES
  | .repository files entrypoint cases =>
    validate_files language.parse files entrypoint = .ok () ∧ cases.length ≤ MAX_CASES

/-- A payload that is accepted, with its bytes. -/
structure Accepted (language : Language) (clean : Payload) (encoded : Text) : Prop where
  source : SourceAccepted language clean
  shallow : Json.nesting clean.json ≤ language.depth
  standard : clean.json.isStandard = true
  short : Json.intsShort clean.json = true
  bytes : encoded = Json.dumps language.floatText Json.compactSeparators clean.json
  small : encoded.length ≤ MAX_PAYLOAD_BYTES

section Acceptance

variable {language : Language} {clean : Payload} {encoded : Text}

theorem encode_eq_ok_iff {refusals : Refusals} :
    encode language.floatText language.depth refusals clean = .ok encoded ↔
      Json.nesting clean.json ≤ language.depth ∧ clean.json.isStandard = true ∧
        Json.intsShort clean.json = true ∧
        encoded = Json.dumps language.floatText Json.compactSeparators clean.json ∧
        encoded.length ≤ MAX_PAYLOAD_BYTES := by
  unfold encode
  split
  · next deep => exact iff_of_false (by simp) fun all => absurd all.1 (not_le.mpr deep)
  · next shallow =>
      split
      · next unwritable =>
          apply iff_of_false (by simp)
          rintro ⟨_, standard, short, _⟩
          exact unwritable.elim (fun refused => refused standard) fun refused => refused short
      · next writable =>
          rw [not_or, not_not, not_not] at writable
          dsimp only
          split
          · next large =>
              apply iff_of_false (by simp)
              rintro ⟨_, _, _, rfl, small⟩
              exact absurd small (not_le.mpr large)
          · next small =>
              rw [Except.ok.injEq]
              constructor
              · rintro rfl
                exact ⟨not_lt.mp shallow, writable.1, writable.2, rfl, not_lt.mp small⟩
              · rintro ⟨_, _, _, same, _⟩
                exact same.symm

theorem cleanRows?_length {rows : List Json} {cases : List CleanCase}
    (cleaned : cleanRows? rows = some cases) : cases.length = rows.length := by
  induction rows generalizing cases with
  | nil =>
      cases cleaned
      rfl
  | cons row rows ih =>
      unfold cleanRows? at cleaned
      split at cleaned
      · next same => cases same
      · next row_ rest same =>
          cases same
          split at cleaned
          · cases cleaned
          · rcases Option.map_eq_some_iff.mp cleaned with ⟨later, inner, rfl⟩
            exact congrArg Nat.succ (ih inner)
      · cases cleaned

/-- The last steps of a validation: the cases are cleaned, and the payload is
encoded. -/
theorem packCases_ok {refusals : Refusals} {payload : List CleanCase → Payload} {cases : Json}
    (screened : ∀ clean : List CleanCase, clean.length ≤ MAX_CASES →
      SourceAccepted language (payload clean))
    (accepted : packCases language refusals payload cases = .ok (clean, encoded)) :
    (∃ rows, clean = payload rows) ∧ Accepted language clean encoded := by
  unfold packCases at accepted
  split at accepted
  · split at accepted
    · cases accepted
    · next packs =>
        cases accepted
        rcases Sandbox.pack_ok packs with ⟨cases, cleaned, few, rfl, encodes⟩
        rcases encode_eq_ok_iff.mp encodes with ⟨shallow, standard, short, bytes, small⟩
        rw [← cleanRows?_length cleaned] at few
        exact ⟨⟨cases, rfl⟩, screened cases few, shallow, standard, short, bytes, small⟩
  · cases accepted

theorem validate_source_value_ok {source function_name : Json} {valid : Text × Text}
    (accepted : validate_source_value language source function_name = .ok valid) :
    validate_source language.parse valid.1 valid.2 = .ok () := by
  unfold validate_source_value at accepted
  split at accepted
  · split at accepted
    · cases accepted
    · next screened =>
        cases accepted
        exact screened
  · split at accepted
    · cases accepted
    · split at accepted <;> cases accepted
  · cases accepted

theorem source_payload_ok {source function_name cases : Json}
    (accepted : source_payload language source function_name cases = .ok (clean, encoded)) :
    Accepted language clean encoded := by
  unfold source_payload at accepted
  split at accepted
  · cases accepted
  · next valid =>
      refine (packCases_ok ?_ accepted).2
      exact fun _ few => ⟨validate_source_value_ok valid, few⟩

theorem validate_files_value_ok {files entrypoint : Json} {valid : Files × Text}
    (accepted : validate_files_value language files entrypoint = .ok valid) :
    validate_files language.parse valid.1 valid.2 = .ok () := by
  unfold validate_files_value at accepted
  split at accepted
  · dsimp only at accepted
    split at accepted
    · cases accepted
    · split at accepted
      · cases accepted
      · split at accepted
        · cases accepted
        · split at accepted
          · cases accepted
          · next screened =>
              cases accepted
              exact screened
  · cases accepted

theorem repository_payload_ok {files entrypoint cases : Json}
    (accepted : repository_payload language files entrypoint cases = .ok (clean, encoded)) :
    (∃ (own : Files) (entry : Text) (rows : List CleanCase), clean = .repository own entry rows) ∧
      Accepted language clean encoded := by
  unfold repository_payload at accepted
  split at accepted
  · cases accepted
  · next own entry valid =>
      have screened (rows : List CleanCase) (few : rows.length ≤ MAX_CASES) :
          SourceAccepted language (.repository own entry rows) :=
        ⟨validate_files_value_ok valid, few⟩
      rcases packCases_ok screened accepted with ⟨⟨rows, same⟩, packs⟩
      exact ⟨⟨own, entry, rows, same⟩, packs⟩

theorem validated_payload_ok {payload : Json}
    (accepted : validated_payload language payload = .ok (clean, encoded)) :
    Accepted language clean encoded := by
  unfold validated_payload at accepted
  split at accepted
  · split at accepted
    · split at accepted
      · exact (repository_payload_ok accepted).2
      · cases accepted
    · split at accepted
      · exact source_payload_ok accepted
      · cases accepted
  · cases accepted

end Acceptance

/-! ## Validating once more -/

theorem cleanRows?_casesJson (cases : List CleanCase) :
    cleanRows? (cases.map fun case => .obj case.fields) = some cases := by
  induction cases with
  | nil => rfl
  | cons case cases ih =>
      rw [List.map_cons, cleanRows?, Sandbox.cleanCase?_fields, ih]
      rfl

/-- An object whose names differ is the dictionary of its fields. -/
theorem objectDict_rows {fields : JsonObject} (distinct : (fields.map Prod.fst).Nodup) :
    (objectDict fields).rows = fields := by
  have grown (dict : Dict Text Json) (distinct : (Dict.keys dict ++ fields.map Prod.fst).Nodup) :
      (fields.foldl (fun dict entry => Dict.set dict entry.1 entry.2) dict).rows =
        dict.rows ++ fields := by
    induction fields generalizing dict with
    | nil => exact (List.append_nil _).symm
    | cons field fields ih =>
        have fresh : field.1 ∉ Dict.keys dict := by
          intro member
          rw [List.map_cons, List.nodup_append] at distinct
          exact distinct.2.2 _ member _ List.mem_cons_self rfl
        have rows := Dict.rows_set_of_not_mem dict field.1 field.2 fresh
        rw [List.foldl_cons, ih, rows, List.append_assoc, List.singleton_append]
        · rw [List.map_cons, List.nodup_append] at distinct
          exact (List.nodup_cons.mp distinct.2.1).2
        · rw [Dict.keys, rows, List.map_append, List.append_assoc]
          exact distinct
  rw [objectDict, grown ∅ distinct]
  rfl

theorem textValues?_filesJson (files : Files) :
    textValues? (objectDict (files.rows.map fun entry => (entry.1, Json.str entry.2))) =
      some files := by
  have rows : (objectDict (files.rows.map fun entry => (entry.1, Json.str entry.2))).rows =
      files.rows.map fun entry => (entry.1, Json.str entry.2) := by
    apply objectDict_rows
    rw [List.map_map]
    exact files.keys_nodup
  unfold textValues?
  rw [rows, if_pos]
  · refine congrArg some (Table.ext ?_)
    have mapped (named : Dict Text Json) :
        (named.mapValues fun _ value => (textOf? value).getD []).rows =
          named.rows.map fun entry => (entry.1, (textOf? entry.2).getD []) := rfl
    rw [mapped, rows, List.map_map]
    exact List.map_id _
  · rw [List.all_map, List.all_eq_true]
    exact fun _ _ => rfl

theorem validate_files_value_filesJson {language : Language} {files : Files} {entrypoint : Text}
    (screened : validate_files language.parse files entrypoint = .ok ()) :
    validate_files_value language (filesJson files) (.str entrypoint) = .ok (files, entrypoint) := by
  rcases validate_files_ok screened with ⟨entry, function, imports, checked, _⟩
  have rows : (objectDict (files.rows.map fun entry => (entry.1, Json.str entry.2))).rows =
      files.rows.map fun entry => (entry.1, Json.str entry.2) := by
    apply objectDict_rows
    rw [List.map_map]
    exact files.keys_nodup
  have names : Dict.keys (objectDict (files.rows.map fun entry => (entry.1, Json.str entry.2))) =
      Dict.keys files := by
    rw [Dict.keys, rows, List.map_map]
    rfl
  have named : (Dict.keys files).any (fun name => !MODULE name || Runner.dunder name) = false := by
    rw [List.any_eq_false]
    intro name member
    simp [checked.names name member]
  unfold validate_files_value filesJson
  dsimp only
  rw [rows, List.length_map, if_neg (not_not.mpr checked.count), names, named, if_neg (by decide),
    textValues?_filesJson]
  simp only [textOf?, Option.getD_some, screened]

theorem read_file (language : Language) (source function_name : Text) (cases : List CleanCase) :
    validated_payload language (Payload.file source function_name cases).json =
      source_payload language (.str source) (.str function_name) (Payload.casesJson cases) := by
  have fields : (Payload.file source function_name cases).json = .obj [
      (Text.ofString "source", .str source), (Text.ofString "function_name", .str function_name),
      (Text.ofString "cases", Payload.casesJson cases)] := rfl
  have kind (first second third : Json) : Json.field? [(Text.ofString "source", first),
      (Text.ofString "function_name", second), (Text.ofString "cases", third)] "kind" = none := rfl
  rw [fields, validated_payload, isRepository, kind]
  rfl

theorem read_repository (language : Language) (files : Files) (entrypoint : Text)
    (cases : List CleanCase) :
    validated_payload language (Payload.repository files entrypoint cases).json =
      repository_payload language (filesJson files) (.str entrypoint)
        (Payload.casesJson cases) := by
  have fields : (Payload.repository files entrypoint cases).json = .obj [
      (Text.ofString "kind", Json.string "repository-v2"), (Text.ofString "files", filesJson files),
      (Text.ofString "entrypoint", .str entrypoint),
      (Text.ofString "cases", Payload.casesJson cases)] := rfl
  have kind (first second third fourth : Json) : Json.field? [(Text.ofString "kind", first),
      (Text.ofString "files", second), (Text.ofString "entrypoint", third),
      (Text.ofString "cases", fourth)] "kind" = some first := rfl
  rw [fields, validated_payload, isRepository, kind]
  simp only [Json.string, decide_true, if_true]
  rfl

/-- Clean cases are packed as they are. -/
theorem packCases_casesJson {language : Language} {refusals : Refusals}
    {payload : List CleanCase → Payload} {cases : List CleanCase} {encoded : Text}
    (few : cases.length ≤ MAX_CASES)
    (encodes : encode language.floatText language.depth refusals (payload cases) = .ok encoded) :
    packCases language refusals payload (Payload.casesJson cases) =
      .ok (payload cases, encoded) := by
  unfold packCases Payload.casesJson
  dsimp only
  rw [pack, List.length_map, if_neg (not_lt.mpr few), cleanRows?_casesJson]
  simp only [encodes]

/-- A payload that is accepted is accepted again, with the same bytes. -/
theorem Accepted.again {language : Language} {clean : Payload} {encoded : Text}
    (accepted : Accepted language clean encoded) :
    validated_payload language clean.json = .ok (clean, encoded) := by
  have encodes (refusals : Refusals) :
      encode language.floatText language.depth refusals clean = .ok encoded :=
    encode_eq_ok_iff.mpr
      ⟨accepted.shallow, accepted.standard, accepted.short, accepted.bytes, accepted.small⟩
  cases clean with
  | file source function_name cases =>
      rcases accepted.source with ⟨screened, few⟩
      rw [read_file, source_payload, validate_source_value, screened]
      exact packCases_casesJson few (encodes sourceRefusals)
  | repository files entrypoint cases =>
      rcases accepted.source with ⟨screened, few⟩
      rw [read_repository, repository_payload, validate_files_value_filesJson screened]
      exact packCases_casesJson few (encodes repositoryRefusals)

/-! ## What a reader decodes -/

/-- A case that has been read back. -/
def joinedCase (case : CleanCase) : CleanCase where
  name := Json.joinPairs case.name
  args := Json.joinedItems case.args
  kwargs := Json.joinedFields [] case.kwargs

/-- A payload that has been read back. -/
def joinedPayload : Payload → Payload
  | .file source function_name cases => .file source function_name (cases.map joinedCase)
  | .repository files entrypoint cases => .repository files entrypoint (cases.map joinedCase)

/-- The fields that the program names itself come back in their order. -/
theorem joined_object {names : List String} (distinct : (names.map Text.ofString).Nodup)
    {fields : List (String × Json)} (named : fields.map Prod.fst = names) :
    Json.joined (Json.object fields) =
      Json.object (fields.map fun field => (field.1, Json.joined field.2)) := by
  have name (source : String) : Json.joinPairs (Text.ofString source) = Text.ofString source :=
    Json.joinPairs_of_isEncodable (Text.isEncodable_ofString source)
  rw [Json.object, Json.joined, Json.joinedFields_of_apart]
  · rw [List.nil_append, List.map_map, Json.object, List.map_map]
    refine congrArg Json.obj (List.map_congr_left fun field _ => ?_)
    rw [Function.comp_apply, Function.comp_apply, name]
  · rw [List.map_nil, List.nil_append, List.map_map]
    have same : ((fun field : Text × Json => Json.joinPairs field.1) ∘
        fun field : String × Json => (Text.ofString field.1, field.2)) =
        Text.ofString ∘ Prod.fst := by
      funext field
      exact name field.1
    rwa [same, ← List.map_map, named]

theorem joined_case (case : CleanCase) :
    Json.joined (.obj case.fields) = .obj (joinedCase case).fields := by
  have fields (case : CleanCase) : Json.obj case.fields = Json.object [("name", .str case.name),
      ("args", .arr case.args), ("kwargs", .obj case.kwargs)] := rfl
  have distinct : (["name", "args", "kwargs"].map Text.ofString).Nodup := by decide +kernel
  rw [fields, joined_object distinct rfl, fields]
  rfl

theorem joined_casesJson (cases : List CleanCase) :
    Json.joined (Payload.casesJson cases) = Payload.casesJson (cases.map joinedCase) := by
  rw [Payload.casesJson, Json.joined, Json.joinedItems_eq, Payload.casesJson, List.map_map,
    List.map_map]
  exact congrArg Json.arr (List.map_congr_left fun case _ => joined_case case)

/-- A text of ASCII characters is encodable. -/
theorem isEncodable_of_small {text : Text} (small : ∀ point ∈ text, point.val < 0x80) :
    Text.isEncodable text = true := by
  rw [Text.isEncodable, List.all_eq_true]
  intro point member
  have plain : ¬ Text.IsSurrogate point := fun surrogate =>
    absurd surrogate.1 (not_le.mpr ((small point member).trans (by decide)))
  rw [decide_eq_false plain]
  rfl

theorem isWord_small {point : CodePoint} (letter : Runner.isWord point = true) :
    point.val < 0x80 := by
  rw [Runner.isWord, decide_eq_true_iff] at letter
  omega

theorem isLower_small {point : CodePoint} (letter : Runner.isLower point = true) :
    point.val < 0x80 := by
  rw [Runner.isLower, decide_eq_true_iff] at letter
  omega

theorem isEncodable_of_letters {first : CodePoint} {rest : Text}
    (lower : Runner.isLower first = true) (words : rest.all Runner.isWord = true) :
    Text.isEncodable (first :: rest) = true := by
  apply isEncodable_of_small
  rw [List.all_eq_true] at words
  rw [List.forall_mem_cons]
  exact ⟨isLower_small lower, fun point member => isWord_small (words point member)⟩

theorem isEncodable_of_identifier {more : ℕ} {text : Text}
    (named : Runner.identifier more text = true) : Text.isEncodable text = true := by
  cases text with
  | nil => rfl
  | cons first rest =>
      rw [Runner.identifier, Bool.and_eq_true, Bool.and_eq_true] at named
      exact isEncodable_of_letters named.1.1 named.1.2

theorem isEncodable_of_functionName {text : Text} (named : functionName text = true) :
    Text.isEncodable text = true := by
  cases text with
  | nil => rfl
  | cons first rest =>
      rw [functionName, Bool.and_eq_true] at named
      exact isEncodable_of_letters named.1 named.2

theorem isEncodable_of_module {name : Text} (matches_ : MODULE name = true) :
    Text.isEncodable name = true := by
  rw [eq_fileOf matches_, fileOf, Text.isEncodable_append,
    isEncodable_of_identifier (module_iff.mp matches_).1, Text.isEncodable_ofString]
  rfl

theorem isEncodable_of_entrypoint {entrypoint entry function : Text}
    (groups : ENTRYPOINT entrypoint = some (entry, function)) :
    Text.isEncodable entrypoint = true := by
  unfold ENTRYPOINT at groups
  simp only [Option.ite_none_right_eq_some, Bool.and_eq_true, decide_eq_true_eq] at groups
  rcases groups with ⟨⟨⟨first, second⟩, whole⟩, _⟩
  rw [whole, Text.isEncodable_append, Text.isEncodable_append, isEncodable_of_identifier first,
    isEncodable_of_identifier second, Text.isEncodable_ofString]
  rfl

theorem validate_source_encodable {parse : Parse} {source function_name : Text}
    (accepted : validate_source parse source function_name = .ok ()) :
    Text.isEncodable source = true ∧ Text.isEncodable function_name = true := by
  unfold validate_source at accepted
  split at accepted
  · cases accepted
  · next size encoded =>
      split at accepted
      · cases accepted
      · split at accepted
        · cases accepted
        · next named =>
            refine ⟨?_, isEncodable_of_functionName (not_not.mp named)⟩
            unfold Text.encodedLength? at encoded
            split at encoded
            · next encodable => exact encodable
            · cases encoded

/-- The files of an accepted repository are read back as they are. -/
theorem joined_filesJson {files : Files}
    (names : ∀ name ∈ Dict.keys files, Text.isEncodable name = true)
    (sources : ∀ source ∈ files.rows.map Prod.snd, Text.isEncodable source = true) :
    Json.joined (filesJson files) = filesJson files := by
  have fixed : ∀ file ∈ files.rows, Json.joinPairs file.1 = file.1 ∧
      Json.joinPairs file.2 = file.2 := fun file member =>
    ⟨Json.joinPairs_of_isEncodable (names _ (List.mem_map_of_mem member)),
      Json.joinPairs_of_isEncodable (sources _ (List.mem_map_of_mem member))⟩
  rw [filesJson, Json.joined, Json.joinedFields_of_apart]
  · rw [List.nil_append, List.map_map]
    refine congrArg Json.obj (List.map_congr_left fun file member => ?_)
    rw [Function.comp_apply, Json.joined, (fixed file member).1, (fixed file member).2]
  · rw [List.map_nil, List.nil_append, List.map_map]
    have same : files.rows.map ((fun field : Text × Json => Json.joinPairs field.1) ∘
        fun entry : Text × Text => (entry.1, Json.str entry.2)) = Dict.keys files :=
      List.map_congr_left fun file member => (fixed file member).1
    rw [same]
    exact files.keys_nodup

/-- An accepted payload is read back with the same source. -/
theorem joined_json {language : Language} {clean : Payload}
    (accepted : SourceAccepted language clean) :
    Json.joined clean.json = (joinedPayload clean).json := by
  cases clean with
  | file source function_name cases =>
      rcases validate_source_encodable accepted.1 with ⟨encodable, named⟩
      have distinct : (["source", "function_name", "cases"].map Text.ofString).Nodup := by
        decide +kernel
      have source_ : Json.joined (.str source) = .str source :=
        congrArg Json.str (Json.joinPairs_of_isEncodable encodable)
      have function_ : Json.joined (.str function_name) = .str function_name :=
        congrArg Json.str (Json.joinPairs_of_isEncodable named)
      rw [Payload.json, joined_object distinct rfl, joinedPayload, Payload.json]
      simp only [List.map_cons, List.map_nil, source_, function_, joined_casesJson]
  | repository files entrypoint cases =>
      rcases validate_files_ok accepted.1 with ⟨entry, function, imports, checked, _⟩
      rcases checked.size with ⟨size, encoded, _⟩
      have distinct : (["kind", "files", "entrypoint", "cases"].map Text.ofString).Nodup := by
        decide +kernel
      have files_ := joined_filesJson
        (fun name member => isEncodable_of_module (checked.names name member).1)
        ((encodedSum_isSome_iff _).mp ⟨size, encoded⟩)
      have kind : Json.joined (Json.string "repository-v2") = Json.string "repository-v2" :=
        congrArg Json.str (Json.joinPairs_of_isEncodable (Text.isEncodable_ofString _))
      have entrypoint_ : Json.joined (.str entrypoint) = .str entrypoint :=
        congrArg Json.str
          (Json.joinPairs_of_isEncodable (isEncodable_of_entrypoint checked.groups))
      rw [Payload.json, joined_object distinct rfl, joinedPayload, Payload.json]
      simp only [List.map_cons, List.map_nil, files_, kind, entrypoint_, joined_casesJson]

end Transport

end ForgeRL
