import ForgeRL.Library.Decoder
import ForgeRL.Bench.Generate

namespace ForgeRL

open Library

/-!
# Candidates in the text of a response

`extract_files` reads a model's answer: it drops a code fence, decodes the
JSON text and merges the files that the answer edits into the current ones.
A malformed answer raises `InvalidCandidate`.  The lengths of the answer and
of the candidate are counted in UTF-8 bytes, and the encoding of a lone
surrogate raises an exception of another kind.
-/

/-! ## The code fence -/

def fence : Text := Text.ofString "```"

def fenceLabel : Text := Text.ofString "json"

/-- The group of "```(?:json)?\s*\n(.*?)\n?```", matched against a whole text
that begins with the fence.  The white space takes the last newline that
follows the label, and the lazy group leaves out one newline at its end. -/
def fencedBody (text : Text) : Option Text :=
  let opened := text.drop fence.length
  let labelled := if fenceLabel.isPrefixOf opened then opened.drop fenceLabel.length else opened
  let space := labelled.takeWhile Text.isSpace
  let isNewline : CodePoint → Bool := fun point => decide (point.val = 0x0A)
  if ¬ space.any isNewline then none
  else
    let inner := space.rtakeWhile (fun point => !isNewline point) ++
      labelled.dropWhile Text.isSpace
    if ¬ fence.isSuffixOf inner then none
    else
      let body := inner.take (inner.length - fence.length)
      some (if body.getLast?.any isNewline then body.dropLast else body)

def unfence (text : Text) : Text :=
  if ¬ fence.isPrefixOf text then text
  else
    match fencedBody text with
    | some body => Text.strip body
    | none => text

/-! ## The files object -/

/-- A decoded object is a dictionary. -/
def objectDict (fields : JsonObject) : Dict Text Json :=
  fields.foldl (fun dict entry => Dict.set dict entry.1 entry.2) ∅

/-- `result.get("files")`, when both are objects. -/
def filesObject : Json → Option (Dict Text Json)
  | .obj fields =>
    match Json.field? fields "files" with
    | some (.obj edits) => some (objectDict edits)
    | _ => none
  | _ => none

/-- The decoded answer. -/
def decodedAnswer (depth : ℕ) (content : Text) : Option Json :=
  Json.loads depth (unfence (Text.strip content))

/-- The text of an edit, unless it is no text or blank. -/
def editText : Json → Option Text
  | .str source => if Text.strip source = [] then none else some source
  | _ => none

/-- `source.rstrip() + "\n"` -/
def normalized (source : Text) : Text := Text.rstrip source ++ Text.newline

/-- The loop over the edits. -/
def applyEdits (task : VisibleTask) (current : Files) :
    List (Text × Json) → Files → Except String Files
  | [], candidate => .ok candidate
  | (name, source) :: rest, candidate =>
    if name ∉ task.allowed_edit_files ∨ name ∉ Dict.keys current then
      .error "Model attempted to edit a protected or unknown file"
    else
      match editText source with
      | none => .error "Model returned an empty or non-text file"
      | some text => applyEdits task current rest (Dict.set candidate name (normalized text))

/-- The encoded lengths of some texts, unless one does not encode. -/
def encodedSum : List Text → Option ℕ
  | [] => some 0
  | text :: rest =>
    match Text.encodedLength? text, encodedSum rest with
    | some first, some others => some (first + others)
    | _, _ => none

def maxFilesBytes : ℕ := 40000

def boundCandidate (candidate : Files) : Extraction :=
  match encodedSum (candidate.rows.map Prod.snd) with
  | none => .raised
  | some size =>
    if size > maxFilesBytes then .invalid "Candidate repository exceeds the source limit"
    else .files candidate

def mergeEdits (task : VisibleTask) (current : Files) (edits : Dict Text Json) : Extraction :=
  match applyEdits task current edits.rows current with
  | .error message => .invalid message
  | .ok candidate => boundCandidate candidate

def maxEdits : ℕ := 8

def readAnswer (depth : ℕ) (content : Text) (task : VisibleTask) (current : Files) : Extraction :=
  match decodedAnswer depth content with
  | none => .invalid "Model did not return valid repository-edit JSON"
  | some result =>
    match filesObject result with
    | none => .invalid "Model did not return a bounded files object"
    | some edits =>
      if edits.rows.length > maxEdits then .invalid "Model did not return a bounded files object"
      else mergeEdits task current edits

/-- `extract_files`; `depth` is how deep the interpreter lets JSON nest. -/
def extract_files (depth : ℕ) (content : Text) (task : VisibleTask) (current : Files) :
    Extraction :=
  match Text.encodedLength? content with
  | none => .raised
  | some size =>
    if size > maxResponseBytes then .invalid "Model returned an oversized repository edit"
    else readAnswer depth content task current

/-! ## What an answer has to be -/

/-- An edit that the loop accepts. -/
def Editable (task : VisibleTask) (current : Files) (entry : Text × Json) : Prop :=
  entry.1 ∈ task.allowed_edit_files ∧ entry.1 ∈ Dict.keys current ∧
    (editText entry.2).isSome = true

/-- The edits of a well-formed answer. -/
structure Accepted (task : VisibleTask) (current : Files) (edits : Dict Text Json) : Prop where
  few : edits.rows.length ≤ maxEdits
  editable : ∀ entry ∈ edits.rows, Editable task current entry

/-- Neither an edit nor a file that stays holds a lone surrogate. -/
structure Encodable (current : Files) (edits : Dict Text Json) : Prop where
  edited : ∀ name source, (name, Json.str source) ∈ edits.rows → Text.isEncodable source = true
  kept : ∀ entry ∈ current.rows, entry.1 ∉ Dict.keys edits → Text.isEncodable entry.2 = true

/-- An edited file: a text that is not blank, without white space at its end,
and one newline. -/
structure EditedFile (source file : Text) : Prop where
  stripped : file = Text.rstrip source ++ Text.newline
  filled : Text.strip source ≠ []
  single : ∀ last, (Text.rstrip source).getLast? = some last → Text.isSpace last = false

/-- A candidate that an answer may come to. -/
structure ValidCandidate (task : VisibleTask) (current : Files) (edits : Dict Text Json)
    (candidate : Files) : Prop where
  keys : Dict.keys candidate = Dict.keys current
  unlisted : ∀ name, name ∉ task.allowed_edit_files →
    Dict.get? candidate name = Dict.get? current name
  kept : ∀ name, name ∉ Dict.keys edits → Dict.get? candidate name = Dict.get? current name
  edited : ∀ entry ∈ edits.rows, ∃ source file, entry.2 = .str source ∧
    Dict.get? candidate entry.1 = some file ∧ EditedFile source file
  bounded : ∃ size, encodedSum (candidate.rows.map Prod.snd) = some size ∧ size ≤ maxFilesBytes

/-- The extraction ends as the answer deserves: with a candidate, or with the
exception of a malformed answer. -/
def Classified (depth : ℕ) (content : Text) (task : VisibleTask) (current : Files) : Prop :=
  match extract_files depth content task current with
  | .files candidate => ∃ edits, (decodedAnswer depth content).bind filesObject = some edits ∧
      ValidCandidate task current edits candidate
  | .invalid _ => True
  | .raised => False

/-- The lone surrogates that no earlier check catches are absent. -/
structure Readable (depth : ℕ) (content : Text) (task : VisibleTask) (current : Files) :
    Prop where
  answer : Text.isEncodable content = true
  files : Text.size content ≤ maxResponseBytes → ∀ edits,
    (decodedAnswer depth content).bind filesObject = some edits → Accepted task current edits →
      Encodable current edits

section Merging

variable {task : VisibleTask} {current candidate : Files}

/-- What the loop over the edits comes to. -/
theorem applyEdits_cases (edits : List (Text × Json)) (start : Files) :
    (∃ message, applyEdits task current edits start = .error message ∧
      ¬ ∀ entry ∈ edits, Editable task current entry) ∨
    (∃ candidate, applyEdits task current edits start = .ok candidate ∧
      ∀ entry ∈ edits, Editable task current entry) := by
  induction edits generalizing start with
  | nil => exact .inr ⟨start, rfl, fun _ member => absurd member List.not_mem_nil⟩
  | cons entry rest ih =>
    rcases entry with ⟨name, source⟩
    rw [applyEdits, List.forall_mem_cons]
    split_ifs with foreign
    · refine .inl ⟨_, rfl, fun all => ?_⟩
      rcases foreign with unlisted | unknown
      · exact unlisted all.1.1
      · exact unknown all.1.2.1
    · push Not at foreign
      cases text : editText source with
      | none =>
        refine .inl ⟨_, rfl, fun all => ?_⟩
        have readable := all.1.2.2
        rw [text] at readable
        cases readable
      | some read =>
        have first : Editable task current (name, source) := by
          refine ⟨foreign.1, foreign.2, ?_⟩
          rw [text]
          rfl
        rcases ih (Dict.set start name (normalized read)) with
          ⟨message, same, refused⟩ | ⟨last, same, all⟩
        · exact .inl ⟨message, same, fun both => refused both.2⟩
        · exact .inr ⟨last, same, first, all⟩

/-- The loop keeps the keys. -/
theorem applyEdits_keys {edits : List (Text × Json)} {start : Files}
    (applied : applyEdits task current edits start = .ok candidate)
    (same : Dict.keys start = Dict.keys current) : Dict.keys candidate = Dict.keys current := by
  induction edits generalizing start with
  | nil =>
    cases applied
    exact same
  | cons entry rest ih =>
    rcases entry with ⟨name, source⟩
    rw [applyEdits] at applied
    split_ifs at applied with foreign
    push Not at foreign
    cases text : editText source with
    | none =>
      rw [text] at applied
      cases applied
    | some read =>
      rw [text] at applied
      refine ih applied (Eq.trans ?_ same)
      exact Dict.keys_set_of_mem _ _ _ (same ▸ foreign.2)

/-- Names without an edit keep their text. -/
theorem applyEdits_kept {edits : List (Text × Json)} {start : Files}
    (applied : applyEdits task current edits start = .ok candidate) {name : Text}
    (unedited : name ∉ edits.map Prod.fst) : Dict.get? candidate name = Dict.get? start name := by
  induction edits generalizing start with
  | nil =>
    cases applied
    rfl
  | cons entry rest ih =>
    rcases entry with ⟨edited, source⟩
    rw [applyEdits] at applied
    rw [List.map_cons, List.mem_cons, not_or] at unedited
    split_ifs at applied
    cases text : editText source with
    | none =>
      rw [text] at applied
      cases applied
    | some read =>
      rw [text] at applied
      rw [ih applied unedited.2, Dict.get?_set, if_neg unedited.1]

/-- An edited name has the text of its edit. -/
theorem applyEdits_edited {edits : List (Text × Json)} {start : Files}
    (applied : applyEdits task current edits start = .ok candidate)
    (once : (edits.map Prod.fst).Nodup) {name source : Text}
    (member : (name, Json.str source) ∈ edits) :
    Dict.get? candidate name = some (normalized source) ∧ Text.strip source ≠ [] := by
  induction edits generalizing start with
  | nil => exact absurd member List.not_mem_nil
  | cons entry rest ih =>
    rcases entry with ⟨first, json⟩
    rw [applyEdits] at applied
    rw [List.map_cons, List.nodup_cons] at once
    split_ifs at applied
    cases text : editText json with
    | none =>
      rw [text] at applied
      cases applied
    | some read =>
      rw [text] at applied
      rcases List.mem_cons.mp member with same | later
      · cases same
        rw [editText] at text
        split_ifs at text with blank
        cases text
        rw [applyEdits_kept applied once.1, Dict.get?_set, if_pos rfl]
        exact ⟨rfl, blank⟩
      · exact ih applied once.2 later

theorem editText_some {value : Json} (some_ : (editText value).isSome = true) :
    ∃ source, value = .str source := by
  cases value with
  | str source => exact ⟨source, rfl⟩
  | _ => cases some_

theorem encodedSum_isSome_iff (texts : List Text) :
    (∃ size, encodedSum texts = some size) ↔ ∀ text ∈ texts, Text.isEncodable text = true := by
  induction texts with
  | nil => exact iff_of_true ⟨0, rfl⟩ (fun _ member => absurd member List.not_mem_nil)
  | cons text rest ih =>
    rw [List.forall_mem_cons, ← ih, encodedSum, Text.encodedLength?]
    by_cases encodable : Text.isEncodable text = true
    · rw [if_pos encodable]
      cases encodedSum rest with
      | none =>
        constructor
        · rintro ⟨_, impossible⟩
          cases impossible
        · rintro ⟨_, _, impossible⟩
          cases impossible
      | some size => exact iff_of_true ⟨_, rfl⟩ ⟨encodable, size, rfl⟩
    · rw [if_neg encodable]
      constructor
      · rintro ⟨_, impossible⟩
        cases impossible
      · exact fun both => absurd both.1 encodable

theorem isEncodable_normalized (source : Text) :
    Text.isEncodable (normalized source) = Text.isEncodable source := by
  rw [normalized, Text.isEncodable_append, Text.isEncodable_rstrip, Text.newline,
    Text.isEncodable_ofString, Bool.and_true]

/-- The files of a candidate encode when its edits and the other files do. -/
theorem candidate_encodable_iff {edits : Dict Text Json}
    (accepted : Accepted task current edits)
    (applied : applyEdits task current edits.rows current = .ok candidate) :
    (∀ text ∈ candidate.rows.map Prod.snd, Text.isEncodable text = true) ↔
      Encodable current edits := by
  constructor
  · intro all
    constructor
    · intro name source member
      have stored := (applyEdits_edited applied edits.keys_nodup member).1
      have encodable := all _ (List.mem_map_of_mem ((Dict.get?_eq_some_iff _ _ _).mp stored))
      rwa [isEncodable_normalized] at encodable
    · intro entry member unedited
      have stored := applyEdits_kept applied unedited
      rw [(Dict.get?_eq_some_iff current entry.1 entry.2).mpr member] at stored
      exact all _ (List.mem_map_of_mem ((Dict.get?_eq_some_iff _ _ _).mp stored))
  · rintro encodable text member
    rcases List.mem_map.mp member with ⟨⟨name, file⟩, stored, rfl⟩
    have found := (Dict.get?_eq_some_iff candidate name file).mpr stored
    by_cases edited : name ∈ Dict.keys edits
    · rcases List.mem_map.mp edited with ⟨⟨_, value⟩, entry, rfl⟩
      rcases editText_some (accepted.editable _ entry).2.2 with ⟨source, same⟩
      cases same
      rw [(applyEdits_edited applied edits.keys_nodup entry).1] at found
      cases found
      exact (isEncodable_normalized source).trans (encodable.edited _ _ entry)
    · rw [applyEdits_kept applied edited] at found
      exact encodable.kept _ ((Dict.get?_eq_some_iff _ _ _).mp found) edited

theorem validCandidate {edits : Dict Text Json} (accepted : Accepted task current edits)
    (applied : applyEdits task current edits.rows current = .ok candidate) {size : ℕ}
    (counted : encodedSum (candidate.rows.map Prod.snd) = some size)
    (fits : size ≤ maxFilesBytes) : ValidCandidate task current edits candidate where
  keys := applyEdits_keys applied rfl
  unlisted name unlisted := by
    apply applyEdits_kept applied
    intro edited
    rcases List.mem_map.mp edited with ⟨entry, member, rfl⟩
    exact unlisted (accepted.editable entry member).1
  kept name unedited := applyEdits_kept applied unedited
  edited entry member := by
    rcases entry with ⟨name, value⟩
    rcases editText_some (accepted.editable _ member).2.2 with ⟨source, same⟩
    cases same
    have stored := applyEdits_edited applied edits.keys_nodup member
    exact ⟨source, normalized source, rfl, stored.1, rfl, stored.2, fun _ => Text.rstrip_last⟩
  bounded := ⟨size, counted, fits⟩

end Merging

/-! ## The classification -/

section Classification

variable (depth : ℕ) (content : Text) (task : VisibleTask) (current : Files)

/-- The edits of an answer that has been decoded. -/
theorem mergeEdits_cases {edits : Dict Text Json} (few : edits.rows.length ≤ maxEdits) :
    match mergeEdits task current edits with
    | .files candidate => Accepted task current edits ∧ Encodable current edits ∧
        ValidCandidate task current edits candidate
    | .invalid _ => Accepted task current edits → Encodable current edits
    | .raised => Accepted task current edits ∧ ¬ Encodable current edits := by
  unfold mergeEdits
  rcases @applyEdits_cases task current edits.rows current with
    ⟨message, same, refused⟩ | ⟨candidate, same, editable⟩
  · rw [same]
    exact fun accepted => absurd accepted.editable refused
  · have accepted : Accepted task current edits := ⟨few, editable⟩
    have encodable := (encodedSum_isSome_iff _).trans (candidate_encodable_iff accepted same)
    rw [same]
    dsimp only
    unfold boundCandidate
    cases counted : encodedSum (candidate.rows.map Prod.snd) with
    | none =>
      refine ⟨accepted, fun encodes => ?_⟩
      rcases encodable.mpr encodes with ⟨size, some_⟩
      rw [counted] at some_
      cases some_
    | some size =>
      have encodes := encodable.mp ⟨size, counted⟩
      dsimp only
      split_ifs with exceeds
      · exact fun _ => encodes
      · exact ⟨accepted, encodes, validCandidate accepted same counted (not_lt.mp exceeds)⟩

theorem readAnswer_classified :
    (match readAnswer depth content task current with
      | .files candidate => ∃ edits, (decodedAnswer depth content).bind filesObject = some edits ∧
          ValidCandidate task current edits candidate
      | .invalid _ => True
      | .raised => False) ↔
      ∀ edits, (decodedAnswer depth content).bind filesObject = some edits →
        Accepted task current edits → Encodable current edits := by
  unfold readAnswer
  cases decodedAnswer depth content with
  | none => exact iff_of_true trivial (fun _ impossible => by cases impossible)
  | some result =>
    rw [Option.bind_some]
    dsimp only
    cases filesObject result with
    | none => exact iff_of_true trivial (fun _ impossible => by cases impossible)
    | some edits =>
      dsimp only
      split_ifs with many
      · apply iff_of_true trivial
        intro other same accepted
        cases same
        exact absurd many (not_lt.mpr accepted.few)
      · have merged := mergeEdits_cases task current (not_lt.mp many)
        generalize mergeEdits task current edits = outcome at merged
        cases outcome with
        | files candidate =>
          refine iff_of_true ⟨edits, rfl, merged.2.2⟩ ?_
          intro other same _
          cases same
          exact merged.2.1
        | invalid message =>
          apply iff_of_true trivial
          intro other same accepted
          cases same
          exact merged accepted
        | raised => exact iff_of_false not_false (fun all => merged.2 (all edits rfl merged.1))

theorem classified_iff : Classified depth content task current ↔
    Readable depth content task current := by
  unfold Classified extract_files Text.encodedLength?
  by_cases encodable : Text.isEncodable content = true
  · rw [if_pos encodable]
    dsimp only
    by_cases oversized : Text.size content > maxResponseBytes
    · rw [if_pos oversized]
      exact iff_of_true trivial ⟨encodable, fun fits => absurd oversized (not_lt.mpr fits)⟩
    · rw [if_neg oversized, readAnswer_classified]
      exact ⟨fun files => ⟨encodable, fun _ => files⟩,
        fun readable => readable.files (not_lt.mp oversized)⟩
  · rw [if_neg encodable]
    exact iff_of_false not_false (fun readable => encodable readable.answer)

end Classification

/-! ## The failure that the provider reports -/

/-- The standard library with this extraction. -/
def Runtime.extracting (runtime : Runtime) (depth : ℕ) : Runtime :=
  { runtime with extract := extract_files depth }

/-- The failures of a response whose provider or model is not the pinned one. -/
def identityMessages : List String :=
  ["Pinned provider identity was not confirmed; result excluded from controlled evaluation",
    "Pinned model identity was not confirmed; result excluded from controlled evaluation"]

/-- A failed call that has received this answer reports a malformed answer,
unless the response came from another provider or model. -/
def AnswerReported (depth : ℕ) (content : Text) (task : VisibleTask) (current : Files) : Prop :=
  ∀ (runtime : Runtime) (profile : Profile) (ledger : Ledger) (feedback : Json) (action : String)
    (runId : Option RunId) (ident : Uuid) (now : ℚ) (exchange : Exchange)
    (failed : ProviderFailure),
    (RepoProvider.generate (runtime.extracting depth) profile ledger task current feedback action
      runId ident now exchange).outcome = .error (.failure failed) →
    failed.response_text = some (.str content) →
    failed.kind = .invalidCandidate ∨ failed.message ∈ identityMessages

/-- No answer has been read at the end of a part of the block. -/
def Unanswered {α : Type} (locals : α → Locals) : Except (Interruption × Locals) α → Prop
  | .error raised => raised.2.response_text = none
  | .ok value => (locals value).response_text = none

section Reporting

variable {runtime : Runtime} {profile : Profile}

theorem charge_unanswered (usage : JsonObject) (tokens : TokenUsage)
    (provider_id : Option Text) :
    Unanswered Prod.snd (RepoProvider.charge profile usage tokens provider_id) := by
  unfold RepoProvider.charge
  cases tokenCharge profile.input_rate profile.output_rate tokens with
  | none => rfl
  | some estimate =>
    dsimp only
    split_ifs
    · cases reportedCost (Json.field? usage "cost") with
      | none => rfl
      | some cost =>
        cases cost with
        | none => rfl
        | some cost =>
          dsimp only
          cases costCharge cost <;> rfl
    · rfl

/-- No answer is read before the settlement. -/
theorem receive_unanswered (exchange : Exchange) :
    Unanswered Accounting.locals (RepoProvider.receive runtime profile exchange) := by
  unfold RepoProvider.receive
  split
  · rfl
  · split
    · rfl
    · split
      · rfl
      · split
        · rfl
        next data _ _ usage _ _ tokens _ =>
          have unanswered :=
            @charge_unanswered profile usage tokens (textField data "provider")
          generalize RepoProvider.charge profile usage tokens (textField data "provider") =
            charged at unanswered
          cases charged <;> exact unanswered
    · rfl

/-- What the end of the block raises once the answer is read. -/
theorem deliver_classified {depth : ℕ} {content : Text} {task : VisibleTask} {current : Files}
    (classified : Classified depth content task current) {model : String}
    {accounting : Accounting} (silent : accounting.locals.response_text = none)
    {interruption : Interruption} {locals : Locals}
    (raised : RepoProvider.deliver (runtime.extracting depth) profile model task current
      accounting = .error (interruption, locals))
    (answered : locals.response_text = some (.str content)) :
    ∃ message, interruption = .invalidCandidate message ∨
      (interruption = .error message ∧ message ∈ identityMessages) := by
  unfold RepoProvider.deliver at raised
  cases choice : firstChoice accounting.data with
  | none =>
    rw [choice] at raised
    cases raised
    rw [silent] at answered
    cases answered
  | some fields =>
    rw [choice] at raised
    dsimp only at raised
    split_ifs at raised
    · cases raised
      exact ⟨_, .inr ⟨rfl, List.mem_cons_self⟩⟩
    · cases raised
      exact ⟨_, .inr ⟨rfl, List.mem_cons_of_mem _ List.mem_cons_self⟩⟩
    · unfold extractCandidate at raised
      split at raised
      next text read =>
        dsimp only [Runtime.extracting] at raised
        have same : content = text := by
          split at raised
          · cases raised
          · cases raised
            rw [read] at answered
            cases answered
            rfl
          · cases raised
            rw [read] at answered
            cases answered
            rfl
        subst same
        unfold Classified at classified
        cases outcome : extract_files depth content task current with
        | files candidate =>
          rw [outcome] at raised
          cases raised
        | invalid message =>
          rw [outcome] at raised
          cases raised
          exact ⟨message, .inl rfl⟩
        | raised =>
          rw [outcome] at classified
          exact classified.elim
      · cases raised
        exact ⟨_, .inl rfl⟩

theorem reported_of_classified {depth : ℕ} {content : Text} {task : VisibleTask}
    {current : Files} (classified : Classified depth content task current) :
    AnswerReported depth content task current := by
  intro runtime profile ledger feedback action runId ident now exchange failed raised answered
  unfold RepoProvider.generate at raised
  split at raised
  · cases raised
  next messages _ =>
    unfold reserveAndAccount at raised
    split at raised
    · cases raised
    · split at raised
      · cases raised
      next reserved _ _ opened _ =>
        have unanswered := @receive_unanswered (runtime.extracting depth) profile exchange
        -- A call that has kept its reservation has read no answer.
        have unread (noted : Ledger) (interruption : Interruption) (locals : Locals)
            (quiet : locals.response_text = none)
            (kept : ((RepoProvider.reading (runtime.extracting depth) profile (action = "strong")
              messages task current).retain noted ident reserved interruption locals).outcome =
                .error (.failure failed)) : False := by
          unfold Reading.retain at kept
          split at kept
          · cases kept
          · cases kept
            have none_ : locals.response_text = some (.str content) := answered
            rw [quiet] at none_
            cases none_
        unfold Reading.account at raised
        dsimp only at raised
        split at raised
        next interruption locals received =>
          have quiet : Unanswered Accounting.locals (.error (interruption, locals)) :=
            received ▸ unanswered
          exact (unread _ _ _ quiet raised).elim
        next accounting received =>
          have quiet : Unanswered Accounting.locals (.ok accounting) := received ▸ unanswered
          split at raised
          · exact (unread _ _ _ quiet raised).elim
          · split at raised
            next interruption locals delivered =>
              cases raised
              rcases deliver_classified classified quiet delivered answered with
                ⟨message, malformed | ⟨other, listed⟩⟩
              · subst malformed
                exact .inl rfl
              · subst other
                exact .inr listed
            · cases raised

end Reporting

/-- A model's answer is classified as an answer exactly when it is readable. -/
theorem extraction_classified_iff (depth : ℕ) (content : Text) (task : VisibleTask)
    (current : Files) :
    Classified depth content task current ∧ AnswerReported depth content task current ↔
      Readable depth content task current := by
  rw [← classified_iff]
  exact ⟨And.left, fun classified => ⟨classified, reported_of_classified classified⟩⟩

/-- An answer with one lone surrogate, for a task with one file. -/
theorem extraction_raises_surrogate :
    ¬ Classified 100 [CodePoint.ofNat 0xD800]
      ⟨[], [], [], [], [Text.ofString "a"], []⟩ (Dict.set ∅ (Text.ofString "a") []) := by
  intro classified
  exact absurd ((classified_iff _ _ _ _).mp classified).answer (by decide)

end ForgeRL
