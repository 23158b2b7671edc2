import ForgeRL.Sandbox.Evaluate

namespace ForgeRL

open Library

/-!
# What the executor's answer validates to

A payload that is accepted once is accepted again, so the executor sees the
clean cases.  Its answer is an unavailable sandbox, a message, or what its
object validates to, and valid rows stand under the names of the cases.  The
`try` of `evaluate` turns a rejection into a message.  What escapes it are the
exceptions of the validators, of the encoder, which refuses inputs that it
cannot write, and of an executor that breaks.
-/

namespace Sandbox

section Payloads

theorem cleanCase?_fields (case : CleanCase) : cleanCase? case.fields = some case := rfl

theorem cleanCases?_cons (row : JsonObject) (rows : List JsonObject) :
    cleanCases? (row :: rows) =
      match cleanCase? row with
      | none => none
      | some case => (cleanCases? rows).map (case :: ·) := rfl

theorem cleanCases?_fields (cases : List CleanCase) :
    cleanCases? (cases.map CleanCase.fields) = some cases := by
  induction cases with
  | nil => rfl
  | cons case cases ih =>
    rw [List.map_cons, cleanCases?_cons, cleanCase?_fields, ih]
    rfl

theorem cleanCases?_length {rows : List JsonObject} {cases : List CleanCase}
    (clean : cleanCases? rows = some cases) : cases.length = rows.length := by
  induction rows generalizing cases with
  | nil =>
    cases clean
    rfl
  | cons row rows ih =>
    rw [cleanCases?_cons] at clean
    split at clean
    · cases clean
    · rcases Option.map_eq_some_iff.mp clean with ⟨rest, cleaned, rfl⟩
      exact congrArg Nat.succ (ih cleaned)

/-- A clean case carries the name of its row. -/
theorem cleanCase?_name {row : JsonObject} {case : CleanCase} (clean : cleanCase? row = some case) :
    Json.field? row "name" = some (.str case.name) := by
  unfold cleanCase? at clean
  split at clean
  next name args kwargs named _ _ =>
    cases clean
    exact named
  · cases clean

section Packing

variable {floatText : ℚ → Text} {depth : ℕ} {refusals : Refusals}
  {payload : List CleanCase → Payload} {rows : List Json} {clean : Payload} {encoded : Text}

/-- A packed request is made of the clean cases, whatever it was made from. -/
theorem pack_ok (accepted : pack floatText depth refusals payload rows = .ok (clean, encoded)) :
    ∃ cases, cleanRows? rows = some cases ∧ rows.length ≤ MAX_CASES ∧ clean = payload cases ∧
      encode floatText depth refusals clean = .ok encoded := by
  unfold pack at accepted
  split_ifs at accepted with many
  split at accepted
  · cases accepted
  · next cases cleaned =>
      split at accepted
      · cases accepted
      · next encodes =>
          cases accepted
          exact ⟨cases, cleaned, not_lt.mp many, rfl, encodes⟩

theorem packed_ok {result : Except Unpacked (Payload × Text)} (accepted : packed result = .ok clean) :
    ∃ encoded, result = .ok (clean, encoded) := by
  unfold packed at accepted
  split at accepted
  · cases accepted
  · next encoded =>
      cases accepted
      exact ⟨encoded, rfl⟩

/-- Cases that have been cleaned are packed as before. -/
theorem pack_again {rows : List JsonObject} {cases : List CleanCase}
    (cleaned : cleanCases? rows = some cases) :
    pack floatText depth refusals payload ((cases.map CleanCase.fields).map Json.obj) =
      pack floatText depth refusals payload (rows.map Json.obj) := by
  have again : cleanRows? ((cases.map CleanCase.fields).map Json.obj) = some cases :=
    cleanCases?_fields cases
  have first : cleanRows? (rows.map Json.obj) = some cases := cleaned
  rw [pack, pack, again, first, List.length_map, List.length_map, List.length_map,
    cleanCases?_length cleaned]

end Packing

/-- An accepted payload is made of the clean cases. -/
theorem source_payload_eq {host : Host} {source function_name : Text} {rows : List JsonObject}
    {clean : Payload} (accepted : source_payload host source function_name rows = .ok clean) :
    ∃ cases, cleanCases? rows = some cases ∧ clean = .file source function_name cases := by
  unfold source_payload at accepted
  split at accepted
  · cases accepted
  · rcases packed_ok accepted with ⟨encoded, packs⟩
    rcases pack_ok packs with ⟨cases, cleaned, _, same, _⟩
    exact ⟨cases, cleaned, same⟩

theorem repository_payload_eq {host : Host} {files : Files} {entrypoint : Text}
    {rows : List JsonObject} {clean : Payload}
    (accepted : RepoSandbox.payload host files entrypoint rows = .ok clean) :
    ∃ cases, cleanCases? rows = some cases ∧ clean = .repository files entrypoint cases := by
  unfold RepoSandbox.payload at accepted
  split at accepted
  · cases accepted
  · rcases packed_ok accepted with ⟨encoded, packs⟩
    rcases pack_ok packs with ⟨cases, cleaned, _, same, _⟩
    exact ⟨cases, cleaned, same⟩

/-- The second validation accepts what the first has accepted. -/
theorem validated_payload_of_source {host : Host} {source function_name : Text}
    {rows : List JsonObject} {clean : Payload}
    (accepted : source_payload host source function_name rows = .ok clean) :
    validated_payload host clean = .ok clean := by
  rcases source_payload_eq accepted with ⟨cases, cleaned, rfl⟩
  rw [← accepted, validated_payload, source_payload, source_payload, pack_again cleaned]

theorem validated_payload_of_repository {host : Host} {files : Files} {entrypoint : Text}
    {rows : List JsonObject} {clean : Payload}
    (accepted : RepoSandbox.payload host files entrypoint rows = .ok clean) :
    validated_payload host clean = .ok clean := by
  rcases repository_payload_eq accepted with ⟨cases, cleaned, rfl⟩
  rw [← accepted, validated_payload, RepoSandbox.payload, RepoSandbox.payload, pack_again cleaned]

end Payloads

/-! ## Validated results -/

section Results

variable {host : Host}

theorem ofString_ne {message : String} (some_ : message ≠ "") : Text.ofString message ≠ [] := by
  intro empty
  apply some_
  have letters : message.toList = [] := List.map_eq_nil_iff.mp empty
  exact String.toList_eq_nil_iff.mp letters

/-- Only the empty string prints as nothing. -/
theorem str_eq_nil {value : Json} : str host value = [] ↔ value = .str [] := by
  have brackets (inside : Text) (opening closing : String) (some_ : opening ≠ "") :
      Text.ofString opening ++ inside ++ Text.ofString closing ≠ [] := by
    simp [ofString_ne some_]
  constructor
  · intro empty
    cases value with
    | str text => exact congrArg Json.str empty
    | null => exact absurd empty (ofString_ne (by decide))
    | bool value => cases value <;> exact absurd empty (ofString_ne (by decide))
    | int value =>
      refine absurd empty (ofString_ne ?_)
      rw [Int.toString_eq_repr, Int.repr_eq_if]
      split_ifs
      · exact Nat.repr_ne_empty
      · simp
    | float value =>
      cases value with
      | finite value => exact absurd empty (host.floatText_ne value)
      | nan => exact absurd empty (ofString_ne (by decide))
      | infinity negative => cases negative <;> exact absurd empty (ofString_ne (by decide))
    | arr items =>
      apply absurd empty
      simp only [str, repr]
      exact brackets _ _ _ (by decide)
    | obj fields =>
      apply absurd empty
      simp only [str, repr]
      exact brackets _ _ _ (by decide)
  · rintro rfl
    rfl

/-- What the rows of a validated result have to do with the cases. -/
def Identified (rows : List JsonObject) (validated : Validated) : Prop :=
  ∀ valid : List Row, validated = .cases valid → valid.length = rows.length ∧
    ∀ (index : ℕ) (executed : Row), valid[index]? = some executed →
      ∃ case, rows[index]? = some case ∧ Json.field? case "name" = some (.str executed.name)

theorem rowOf?_name {case : CleanCase} {value : Json} {row : Row}
    (valid : rowOf? case value = some row) : row.name = case.name := by
  unfold rowOf? at valid
  split at valid
  · split at valid
    · split_ifs at valid with same
      cases valid
      exact same
    · cases valid
  · cases valid

theorem rowsOf?_identified {rows : List JsonObject} {cases : List CleanCase} {values : List Json}
    {valid : List Row} (clean : cleanCases? rows = some cases)
    (lengths : values.length = cases.length) (validated : rowsOf? cases values = some valid) :
    Identified rows (.cases valid) := by
  rintro _ ⟨⟩
  induction rows generalizing cases values valid with
  | nil =>
    cases clean
    cases List.eq_nil_of_length_eq_zero lengths
    cases validated
    exact ⟨rfl, by simp⟩
  | cons row rows ih =>
    rw [cleanCases?_cons] at clean
    split at clean
    · cases clean
    next case cleaned =>
      rcases Option.map_eq_some_iff.mp clean with ⟨rest, others, rfl⟩
      cases values with
      | nil => cases lengths
      | cons value values =>
        unfold rowsOf? at validated
        split at validated
        · cases validated
        next first checked =>
          rcases Option.map_eq_some_iff.mp validated with ⟨later, checkedRest, rfl⟩
          rcases ih others (Nat.succ.inj lengths) checkedRest with ⟨count, named⟩
          refine ⟨congrArg Nat.succ count, ?_⟩
          intro index executed found
          cases index with
          | zero =>
            cases found
            exact ⟨row, rfl, by rw [rowOf?_name checked]; exact cleanCase?_name cleaned⟩
          | succ index => exact named index executed found

theorem validate_result_identified {rows : List JsonObject} {cases : List CleanCase}
    (clean : cleanCases? rows = some cases) (result : Json) :
    Identified rows (validate_result host result cases) := by
  have failed (message : Text) : Identified rows (.execution_error message) := by
    rintro _ ⟨⟩
  unfold validate_result
  split
  · split
    · exact failed _
    · split
      · split_ifs with lengths
        · exact failed _
        · split
          · exact failed _
          next valid checked => exact rowsOf?_identified clean (not_not.mp lengths) checked
      · exact failed _
  · exact failed _

/-- The object that the executor has sent. -/
def Executor.decoded? : Executor → Option Json
  | .broker (.value result) => if isUnavailable result then none else some result
  | .docker (.exited returncode _ decoded) => if returncode = 0 then decoded else none
  | _ => none

/-- The executor ends in an exception that nothing on its way catches. -/
def Executor.breaks : Executor → Bool
  | .broker .tooDeep => true
  | .docker .broken => true
  | _ => false

/-- An accepted payload is answered by a message of the harness, or by what
the executor's object validates to, unless the executor breaks. -/
inductive Answered (host : Host) (rows : List JsonObject) (executor : Executor) :
    Except Rejection Validated → Prop where
  | unavailable (message : String) (silent : executor.decoded? = none)
      (whole : executor.breaks = false) :
      Answered host rows executor (.error (.escaped (.sandboxUnavailable message)))
  | broken (silent : executor.decoded? = none) (breaks : executor.breaks = true) :
      Answered host rows executor (.error (.escaped .other))
  | failed (message : String) (some_ : message ≠ "") (silent : executor.decoded? = none)
      (whole : executor.breaks = false) :
      Answered host rows executor (.ok (.execution_error (Text.ofString message)))
  | decoded (result : Json) (sent : executor.decoded? = some result)
      (whole : executor.breaks = false) (cases : List CleanCase)
      (clean : cleanCases? rows = some cases) :
      Answered host rows executor (.ok (validate_result host result cases))

theorem execute_answered {rows : List JsonObject} {payload : Payload}
    (accepted : validated_payload host payload = .ok payload)
    (clean : cleanCases? rows = some payload.cases) (executor : Executor) :
    Answered host rows executor (execute host payload executor) := by
  cases executor with
  | broker reply =>
    rw [execute, execute_broker, accepted]
    cases reply with
    | value result =>
      dsimp only
      split_ifs with unavailable
      · exact .unavailable _ (by simp [Executor.decoded?, unavailable]) rfl
      · exact .decoded result (by simp [Executor.decoded?, unavailable]) rfl _ clean
    | tooDeep => exact .broken rfl rfl
    | _ => exact .unavailable _ rfl rfl
  | docker run =>
    rw [execute, execute_docker, accepted]
    cases run with
    | unavailable message => exact .unavailable message rfl rfl
    | limited => exact .failed _ (by decide) rfl rfl
    | broken => exact .broken rfl rfl
    | exited returncode diagnostic decoded =>
      dsimp only
      split_ifs with offline failed infrastructure
      · refine .unavailable _ (if_neg ?_) rfl
        rintro rfl
        simp at offline
      · exact .unavailable _ (if_neg failed) rfl
      · exact .failed _ (by decide) (if_neg failed) rfl
      · rw [not_not] at failed
        subst failed
        cases decoded with
        | none => exact .failed _ (by decide) rfl rfl
        | some result => exact .decoded result rfl rfl _ clean

/-- The executor's object reports the empty string as its error. -/
def Executor.Blank (executor : Executor) : Prop :=
  ∃ fields, executor.decoded? = some (.obj fields) ∧
    Json.field? fields "execution_error" = some (.str [])

theorem validate_result_blank {result : Json} {cases : List CleanCase} :
    validate_result host result cases = .execution_error [] ↔
      ∃ fields, result = .obj fields ∧ Json.field? fields "execution_error" = some (.str []) := by
  have literal {message : String} (some_ : message ≠ "") :
      ¬ Validated.execution_error (Text.ofString message) = .execution_error [] := by
    simpa using ofString_ne some_
  unfold validate_result
  split
  next fields =>
    simp only [Json.obj.injEq, exists_eq_left']
    split
    next error reported => simp [reported, List.take_eq_nil_iff, str_eq_nil]
    next absent =>
      simp only [absent, reduceCtorEq, iff_false]
      split
      · split_ifs
        · exact literal (by decide)
        · split
          · exact literal (by decide)
          · simp
      · exact literal (by decide)
  next different =>
    apply iff_of_false (literal (by decide))
    rintro ⟨fields, rfl, _⟩
    exact different fields rfl

/-- The encoder writes the inputs of these cases in a payload: they hold no
NaN, no infinity and no integer that is too long, and do not nest too deep. -/
structure WritableCases (depth : ℕ) (cases : List CleanCase) : Prop where
  standard : (Payload.casesJson cases).isStandard = true
  short : Json.intsShort (Payload.casesJson cases) = true
  shallow : Json.nesting (Payload.casesJson cases) < depth

/-- What is encoded of these rows can be written. -/
def Writable (host : Host) (rows : List JsonObject) : Prop :=
  rows.length ≤ MAX_CASES → ∀ cases, cleanCases? rows = some cases → WritableCases host.depth cases

/-- What a payload of these rows can come to, when the code beside them is
`valid` or not. -/
inductive Prepared (host : Host) (rows : List JsonObject) (valid : Prop) :
    Except Rejection Payload → Prop where
  | rejected (message : String) (some_ : message ≠ "") (writable : valid → Writable host rows) :
      Prepared host rows valid (.error (.rejected message))
  | unscreened (escape : Escape) (invalid : ¬ valid) :
      Prepared host rows valid (.error (.escaped escape))
  | unwritten (escape : Escape) (foreign : ∀ message, escape ≠ .sandboxUnavailable message)
      (unwritable : ¬ Writable host rows) : Prepared host rows valid (.error (.escaped escape))
  | accepted (payload : Payload) (clean : cleanCases? rows = some payload.cases)
      (writable : Writable host rows) : Prepared host rows valid (.ok payload)

theorem filesJson_standard (files : Files) : (filesJson files).isStandard = true := by
  rw [filesJson, Json.isStandard, Json.fieldsStandard_iff, List.forall_mem_map]
  exact fun _ _ => rfl

theorem filesJson_short (files : Files) : Json.intsShort (filesJson files) = true := by
  rw [filesJson, Json.intsShort]
  induction files.rows with
  | nil => rfl
  | cons file files ih =>
    rw [List.map_cons, Json.fieldsIntsShort, ih]
    rfl

theorem filesJson_nesting (files : Files) : Json.nesting (filesJson files) = 1 := by
  rw [filesJson, Json.nesting]
  induction files.rows with
  | nil => rfl
  | cons file files ih =>
    rw [List.map_cons, Json.fieldsNesting, show Json.nesting (.str file.2) = 0 from rfl,
      Nat.zero_max]
    exact ih

/-- Only the inputs of the cases decide whether a payload can be written. -/
theorem payload_writable {depth : ℕ} (payload : Payload) :
    (Json.nesting payload.json ≤ depth ∧ payload.json.isStandard = true ∧
        Json.intsShort payload.json = true) ↔ WritableCases depth payload.cases := by
  have deep (cases : List CleanCase) : 1 ≤ Json.nesting (Payload.casesJson cases) := by
    rw [Payload.casesJson, Json.nesting]
    exact Nat.le_add_left _ _
  have parts : payload.json.isStandard = (Payload.casesJson payload.cases).isStandard ∧
      Json.intsShort payload.json = Json.intsShort (Payload.casesJson payload.cases) ∧
      Json.nesting payload.json = Json.nesting (Payload.casesJson payload.cases) + 1 := by
    cases payload with
    | file source function_name cases =>
      simp only [Payload.json, Payload.cases, Json.object, List.map_cons, List.map_nil,
        Json.isStandard, Json.fieldsStandard, Json.intsShort, Json.fieldsIntsShort, Json.nesting,
        Json.fieldsNesting, Bool.true_and, Bool.and_true, Nat.zero_max, Nat.max_zero, and_self]
    | repository files entrypoint cases =>
      have enough := deep cases
      simp only [Payload.json, Payload.cases, Json.object, List.map_cons, List.map_nil,
        Json.isStandard, Json.fieldsStandard, Json.intsShort, Json.fieldsIntsShort, Json.nesting,
        Json.fieldsNesting, Json.string, filesJson_standard, filesJson_short, filesJson_nesting,
        Bool.true_and, Bool.and_true, Nat.zero_max, Nat.max_zero, true_and]
      omega
  rw [parts.1, parts.2.1, parts.2.2]
  constructor
  · rintro ⟨shallow, standard, short⟩
    exact ⟨standard, short, shallow⟩
  · rintro ⟨standard, short, shallow⟩
    exact ⟨shallow, standard, short⟩

/-- What the encoding of a payload can come to. -/
theorem encode_cases (floatText : ℚ → Text) (depth : ℕ) (refusals : Refusals)
    (payload : Payload) :
    (WritableCases depth payload.cases ∧
        (encode floatText depth refusals payload = .error (.rejected refusals.size) ∨
          ∃ encoded, encode floatText depth refusals payload = .ok encoded)) ∨
      ¬ WritableCases depth payload.cases ∧
        (encode floatText depth refusals payload = .error .recursionError ∨
          encode floatText depth refusals payload = .error .valueError) := by
  rw [← payload_writable]
  unfold encode
  split
  · next deep =>
      exact .inr ⟨fun writable => absurd writable.1 (not_le.mpr deep), .inl rfl⟩
  · next shallow =>
      split
      · next unwritable =>
          refine .inr ⟨fun writable => ?_, .inr rfl⟩
          exact unwritable.elim (fun refused => refused writable.2.1) fun refused =>
            refused writable.2.2
      · next writable =>
          rw [not_or, not_not, not_not] at writable
          refine .inl ⟨⟨not_lt.mp shallow, writable⟩, ?_⟩
          dsimp only
          split_ifs
          · exact .inl rfl
          · exact .inr ⟨_, rfl⟩

theorem pack_prepared {host : Host} {valid : Prop} {refusals : Refusals}
    (collection : refusals.collection ≠ "") (case_ : refusals.case ≠ "") (size : refusals.size ≠ "")
    {payload : List CleanCase → Payload} (made : ∀ cases, (payload cases).cases = cases)
    (rows : List JsonObject) :
    Prepared host rows valid
      (packed (pack host.floatText host.depth refusals payload (rows.map Json.obj))) := by
  unfold pack
  rw [List.length_map]
  split_ifs with many
  · exact .rejected _ collection fun _ few => absurd few (not_le.mpr many)
  · split
    next unclean =>
      refine .rejected _ case_ fun _ _ cases cleaned => ?_
      rw [cleanCases?, unclean] at cleaned
      cases cleaned
    next clean cleaned =>
      have cleaned : cleanCases? rows = some (payload clean).cases := by
        rw [made]
        exact cleaned
      have writable : Writable host rows ↔ WritableCases host.depth (payload clean).cases := by
        constructor
        · exact fun all => all (not_lt.mp many) _ cleaned
        · intro this _ cases same
          rw [cleaned] at same
          cases same
          exact this
      rcases encode_cases host.floatText host.depth refusals (payload clean) with
        ⟨holds, large | ⟨encoded, encodes⟩⟩ | ⟨fails, deep | refused⟩
      · rw [large]
        exact .rejected _ size fun _ => writable.mpr holds
      · rw [encodes]
        exact .accepted _ cleaned (writable.mpr holds)
      · rw [deep]
        exact .unwritten _ (fun _ same => by cases same) fun all => fails (writable.mp all)
      · rw [refused]
        exact .unwritten _ (fun _ same => by cases same) fun all => fails (writable.mp all)

theorem source_payload_prepared (source function_name : Text) (rows : List JsonObject) :
    Prepared host rows (host.validate_source source function_name = .ok ())
      (source_payload host source function_name rows) := by
  unfold source_payload
  split
  next rejection refused =>
    cases rejection with
    | rejected message =>
      refine .rejected _ ?_ (by simp [refused])
      rintro rfl
      exact host.source_message_ne _ _ refused
    | escaped escape => exact .unscreened _ (by simp [refused])
  · exact pack_prepared (by decide) (by decide) (by decide) (fun _ => rfl) rows

theorem repository_payload_prepared (files : Files) (entrypoint : Text) (rows : List JsonObject) :
    Prepared host rows (host.validate_files files entrypoint = .ok ())
      (RepoSandbox.payload host files entrypoint rows) := by
  unfold RepoSandbox.payload
  split
  next rejection refused =>
    cases rejection with
    | rejected message =>
      refine .rejected _ ?_ (by simp [refused])
      rintro rfl
      exact host.files_message_ne _ _ refused
    | escaped escape => exact .unscreened _ (by simp [refused])
  · exact pack_prepared (by decide) (by decide) (by decide) (fun _ => rfl) rows

theorem cleanCases?_named {rows : List JsonObject} {cases : List CleanCase}
    (clean : cleanCases? rows = some cases) {case : JsonObject} (member : case ∈ rows) :
    (Json.field? case "name").isSome = true := by
  induction rows generalizing cases with
  | nil => cases member
  | cons row rows ih =>
    rw [cleanCases?_cons] at clean
    split at clean
    · cases clean
    next first cleaned =>
      rcases Option.map_eq_some_iff.mp clean with ⟨rest, others, rfl⟩
      rcases List.mem_cons.mp member with rfl | later
      · rw [cleanCase?_name cleaned]
        rfl
      · exact ih others later

/-- What the `try` of `evaluate` can come to, when the code is `valid` or not
and its payload `accepted` or not. -/
inductive Executed (host : Host) (rows : List JsonObject) (valid accepted : Prop)
    (executor : Executor) : Except Escape Validated → Prop where
  | rejected (message : Text) (some_ : message ≠ []) (refused : ¬ accepted)
      (writable : valid → Writable host rows) :
      Executed host rows valid accepted executor (.ok (.execution_error message))
  | unscreened (escape : Escape) (invalid : ¬ valid) (refused : ¬ accepted) :
      Executed host rows valid accepted executor (.error escape)
  | unwritten (escape : Escape) (foreign : ∀ message, escape ≠ .sandboxUnavailable message)
      (unwritable : ¬ Writable host rows) (refused : ¬ accepted) :
      Executed host rows valid accepted executor (.error escape)
  | answered (acceptance : accepted) (writable : Writable host rows)
      (named : ∀ case ∈ rows, (Json.field? case "name").isSome = true)
      (answer : Except Rejection Validated) (answered : Answered host rows executor answer) :
      Executed host rows valid accepted executor (catchRejected answer)

theorem executed_cases (host : Host) (task : Task) (source : Text) (hidden : Bool)
    (executor : Executor) :
    Executed host (task.cases hidden) (host.validate_source source task.function_name = .ok ())
      (∃ clean, source_payload host source task.function_name (task.cases hidden) = .ok clean)
      executor (executed host task source hidden executor) := by
  have ways := @source_payload_prepared host source task.function_name (task.cases hidden)
  unfold executed
  cases prepared : source_payload host source task.function_name (task.cases hidden) with
  | error rejection =>
    rw [prepared] at ways
    cases ways with
    | rejected message some_ writable =>
      exact .rejected _ (ofString_ne some_) (by simp) writable
    | unscreened escape invalid => exact .unscreened _ invalid (by simp)
    | unwritten escape foreign unwritable => exact .unwritten _ foreign unwritable (by simp)
  | ok payload =>
    rw [prepared] at ways
    cases ways with
    | accepted _ clean writable =>
      exact .answered ⟨payload, rfl⟩ writable (fun _ => cleanCases?_named clean) _
        (execute_answered (validated_payload_of_source prepared) clean executor)

/-- A repository is accepted when its files and its payload are. -/
def RepoAccepted (host : Host) (task : RepoTask) (files : Files) (hidden : Bool) : Prop :=
  RepoSandbox.validate_edits host.validate_files task files = .ok () ∧
    ∃ clean, RepoSandbox.payload host files task.entrypoint (RepoSandbox.cases task hidden) =
      .ok clean

theorem validate_edits_message (task : RepoTask) (files : Files) :
    RepoSandbox.validate_edits host.validate_files task files ≠ .error (.rejected "") := by
  unfold RepoSandbox.validate_edits
  split_ifs
  · simp
  · exact host.files_message_ne _ _
  · simp

theorem validate_files_of_edits {task : RepoTask} {files : Files}
    (edits : RepoSandbox.validate_edits host.validate_files task files = .ok ()) :
    host.validate_files files task.entrypoint = .ok () := by
  unfold RepoSandbox.validate_edits at edits
  split_ifs at edits
  exact edits

theorem repo_executed_cases (host : Host) (task : RepoTask) (files : Files) (hidden : Bool)
    (executor : Executor) :
    Executed host (RepoSandbox.cases task hidden)
      (RepoSandbox.validate_edits host.validate_files task files = .ok ())
      (RepoAccepted host task files hidden) executor
      (RepoSandbox.executed host task files hidden executor) := by
  have ways := @repository_payload_prepared host files task.entrypoint
    (RepoSandbox.cases task hidden)
  unfold RepoSandbox.executed
  cases edits : RepoSandbox.validate_edits host.validate_files task files with
  | error rejection =>
    cases rejection with
    | rejected message =>
      refine .rejected _ (ofString_ne ?_) (fun accepted => by simp [accepted.1] at edits) (by simp)
      rintro rfl
      exact validate_edits_message task files edits
    | escaped escape =>
      exact .unscreened _ (by simp) fun accepted => by simp [accepted.1] at edits
  | ok _ =>
    have valid := validate_files_of_edits edits
    cases prepared : RepoSandbox.payload host files task.entrypoint
        (RepoSandbox.cases task hidden) with
    | error rejection =>
      rw [prepared] at ways
      have refused : ¬ RepoAccepted host task files hidden := by
        simp [RepoAccepted, prepared]
      cases ways with
      | rejected message some_ writable =>
        exact .rejected _ (ofString_ne some_) refused fun _ => writable valid
      | unscreened escape invalid => exact absurd valid invalid
      | unwritten escape foreign unwritable => exact .unwritten _ foreign unwritable refused
    | ok payload =>
      rw [prepared] at ways
      cases ways with
      | accepted _ clean writable =>
        exact .answered ⟨edits, payload, prepared⟩ writable (fun _ => cleanCases?_named clean) _
          (execute_answered (validated_payload_of_repository prepared) clean executor)

section Outcome

variable {rows : List JsonObject} {valid accepted : Prop} {executor : Executor}

/-- A result without a message comes from an accepted payload and an object
that reports the empty string. -/
theorem Executed.blank_iff {outcome : Except Escape Validated}
    (executed : Executed host rows valid accepted executor outcome) :
    outcome = .ok (.execution_error []) ↔ accepted ∧ executor.Blank := by
  have unsent (silent : executor.decoded? = none) : ¬ executor.Blank := by
    rintro ⟨fields, sent, _⟩
    rw [silent] at sent
    cases sent
  cases executed with
  | rejected message some_ refused => simp [some_, refused]
  | unscreened escape invalid refused => simp [refused]
  | unwritten escape foreign unwritable refused => simp [refused]
  | answered acceptance writable named answer answered =>
    cases answered with
    | unavailable message silent => simp [catchRejected, unsent silent]
    | broken silent => simp [catchRejected, unsent silent]
    | failed message some_ silent => simp [catchRejected, ofString_ne some_, unsent silent]
    | decoded result sent whole cases clean =>
      rw [catchRejected, Except.ok.injEq, validate_result_blank]
      simp [acceptance, Executor.Blank, sent]

theorem Executed.identified {validated : Validated}
    (executed : Executed host rows valid accepted executor (.ok validated)) :
    Identified rows validated := by
  generalize same : (Except.ok validated : Except Escape Validated) = outcome at executed
  cases executed with
  | rejected =>
    cases same
    rintro _ ⟨⟩
  | unscreened => cases same
  | unwritten => cases same
  | answered acceptance writable named answer answered =>
    cases answered with
    | unavailable => cases same
    | broken => cases same
    | failed =>
      cases same
      rintro _ ⟨⟩
    | decoded result sent whole cases clean =>
      cases same
      exact validate_result_identified clean result

/-- What an execution of valid code raises. -/
theorem Executed.error_cases {escape : Escape}
    (executed : Executed host rows valid accepted executor (.error escape)) (validity : valid) :
    ((∀ message, escape ≠ .sandboxUnavailable message) ∧
        (¬ Writable host rows ∨ accepted ∧ executor.breaks = true)) ∨
      ∃ message, escape = .sandboxUnavailable message ∧ Writable host rows ∧
        executor.breaks = false ∧ ∀ case ∈ rows, (Json.field? case "name").isSome = true := by
  generalize same : (Except.error escape : Except Escape Validated) = outcome at executed
  cases executed with
  | rejected => cases same
  | unscreened _ invalid => exact absurd validity invalid
  | unwritten _ foreign unwritable =>
    cases same
    exact .inl ⟨foreign, .inl unwritable⟩
  | answered acceptance writable named answer answered =>
    cases answered with
    | unavailable message silent whole =>
      cases same
      exact .inr ⟨message, rfl, writable, whole, named⟩
    | broken silent breaks =>
      cases same
      exact .inl ⟨fun _ impossible => (by cases impossible), .inr ⟨acceptance, breaks⟩⟩
    | failed => cases same
    | decoded => cases same

/-- An execution of valid code that returns had inputs that can be written, and
a whole executor if it came to that. -/
theorem Executed.ok_cases {validated : Validated}
    (executed : Executed host rows valid accepted executor (.ok validated)) (validity : valid) :
    Writable host rows ∧ (accepted → executor.breaks = false) := by
  generalize same : (Except.ok validated : Except Escape Validated) = outcome at executed
  cases executed with
  | rejected _ _ refused writable => exact ⟨writable validity, fun holds => absurd holds refused⟩
  | unscreened => cases same
  | unwritten => cases same
  | answered _ writable named answer answered =>
    cases answered with
    | unavailable => cases same
    | broken => cases same
    | failed _ _ _ whole => exact ⟨writable, fun _ => whole⟩
    | decoded _ _ whole => exact ⟨writable, fun _ => whole⟩

/-- The cases of an accepted payload have names, and it can be written. -/
theorem Executed.of_accepted {outcome : Except Escape Validated}
    (executed : Executed host rows valid accepted executor outcome) (acceptance : accepted) :
    (∀ case ∈ rows, (Json.field? case "name").isSome = true) ∧ Writable host rows := by
  cases executed with
  | rejected _ _ refused => exact absurd acceptance refused
  | unscreened _ _ refused => exact absurd acceptance refused
  | unwritten _ _ _ refused => exact absurd acceptance refused
  | answered _ writable named => exact ⟨named, writable⟩

end Outcome

end Results

end Sandbox

end ForgeRL
