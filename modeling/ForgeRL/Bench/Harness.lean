import ForgeRL.Bench.Episode

namespace ForgeRL

open Library

/-!
# The methods that the episode classes override

`RepoEpisode` calls these methods on `self`, and the three subclasses replace
some of them.  Each class keeps its own definition; the functions under
`Episode` choose by the harness of the configuration, as dynamic dispatch
does.
-/

/-! ## Feedback on visible cases -/

/-- The bytes of an actual output that reach a prompt. -/
def previewLimit : ℕ := 2048

/-- A row with some value for "actual". -/
def CaseRow.fields (row : CaseRow) (actual : Option Json) : JsonObject :=
  [(Text.ofString "name", .str row.name), (Text.ofString "passed", .bool row.passed)] ++
    (match actual with | some value => [(Text.ofString "actual", value)] | none => []) ++
    [(Text.ofString "error", row.error)]

/-- The row of `bounded_visible_cases`.  NaN and infinities raise in the
encoder, a lone surrogate in the encoding. -/
def boundedRow (floatText : ℚ → Text) (limit : ℕ) (row : CaseRow) : Except Escape JsonObject :=
  match row.actual with
  | none => .ok (row.fields none)
  | some actual =>
    if ¬ actual.isStandard then
      .error (.valueError "Out of range float values are not JSON compliant")
    else
      let encoded := Json.encode floatText Json.defaultSeparators actual
      match Text.encodedLength? encoded with
      | none => .error .unicodeEncodeError
      | some size =>
        if size ≤ limit then .ok (row.fields (some actual))
        else .ok (row.fields (some .null) ++ [
          (Text.ofString "actual_preview", .str (Text.takeBytes limit encoded)),
          (Text.ofString "actual_omitted", .bool true),
          (Text.ofString "actual_size_bytes", .int size),
          (Text.ofString "actual_note", Json.string ("Actual output omitted from model feedback; " ++
            "preview is truncated JSON text, not the complete value."))])

def bounded_visible_cases (floatText : ℚ → Text) (limit : ℕ) (cases : List CaseRow) :
    Except Escape (List JsonObject) :=
  match cases with
  | [] => .ok []
  | row :: rest =>
    match boundedRow floatText limit row with
    | .error escape => .error escape
    | .ok bounded =>
      match bounded_visible_cases floatText limit rest with
      | .error escape => .error escape
      | .ok others => .ok (bounded :: others)

def Action.name : Action → String
  | .retry => "retry"
  | .repair => "repair"
  | .escalate => "escalate"
  | .rollback => "rollback"
  | .stop => "stop"
  | .verify => "verify"

def instruction (action : Action) : String :=
  if action = .repair then
    "Repair the visible failures while preserving currently passing behavior."
  else "Produce a complete candidate using the task specification and visible feedback."

/-! ## `RepoEpisode` -/

namespace RepoEpisode

def observation (cfg : Config) (ep : Episode) : Observation where
  public_passed := ep.publicResult.passed
  public_total := ep.publicResult.total
  attempts := ep.attempts
  max_steps := cfg.bounds.max_steps
  decisions := ep.decisions
  max_decisions := cfg.bounds.max_decisions
  budget_remaining_usd := max 0 (cfg.arithmetic.round (cfg.bounds.max_cost_usd - ep.cost_usd))
  current_model := ep.current_model
  improvement := ep.improvement
  can_rollback := decide (ep.publicResult.passed < ep.bestPublic.passed ∧
    ¬ Dict.SameItems ep.files ep.best_files)
  rollbacks := ep.rollbacks
  retries := ep.retries
  verification := none

def feedback (cfg : Config) (ep : Episode) (action : Action) :
    Except Escape (List (String × Json)) :=
  match bounded_visible_cases cfg.floatText previewLimit ep.publicResult.cases with
  | .error escape => .error escape
  | .ok rows => .ok [
      ("passed", .int ep.publicResult.passed),
      ("total", .int ep.publicResult.total),
      ("cases", .arr (rows.map Json.obj)),
      ("attempt", .int (ep.attempts + 1)),
      ("action", Json.string action.name),
      ("instruction", Json.string (instruction action))]

end RepoEpisode

/-! ## `VerificationEpisode` -/

namespace VerificationEpisode

def featureVersion : String := "forgebench-state-v3-development"

/-- `self.max_verifications`; the control arm of the ablation has none. -/
def max_verifications (cfg : Config) : ℕ :=
  if cfg.harness = .ablation false then 0 else cfg.max_verifications

def current_verification (cfg : Config) (ep : Episode) : Option EvalResult :=
  ep.verified_candidates.get? (cfg.fingerprint ep.files)

def view (version : String) (cfg : Config) (ep : Episode) : VerificationView where
  feature_version := version
  result := (current_verification cfg ep).map (fun result => (result.passed, result.total))
  calls := ep.verification_calls
  max_verifications := max_verifications cfg

def observation (cfg : Config) (ep : Episode) : Observation :=
  { RepoEpisode.observation cfg ep with verification := some (view featureVersion cfg ep) }

/-- `verification_passed` and `verification_total` of an observation. -/
def verified (state : Observation) : Option (ℕ × ℕ) :=
  state.verification.bind VerificationView.result

def routing_signal (state : Observation) : Observation :=
  match verified state with
  | some (passed, total) =>
    if passed < total then
      { state with
        public_total := state.public_total + total
        public_passed := state.public_passed + passed }
    else state
  | none => state

def legal_actions (cfg : Config) (ep : Episode) (state : Observation) : List Action :=
  if state.decisions ≥ state.max_decisions then [.stop]
  else
    let actions := Router.allowed_actions (routing_signal state)
    if state.VisibleGreen ∧ verified state = none ∧
        ep.verification_calls < max_verifications cfg ∧
        cfg.fingerprint ep.files ∉ ep.verification_attempted then
      .verify :: actions
    else actions

def feedback (cfg : Config) (ep : Episode) (action : Action) :
    Except Escape (List (String × Json)) :=
  match RepoEpisode.feedback cfg ep action with
  | .error escape => .error escape
  | .ok fields =>
    match current_verification cfg ep with
    | none => .ok fields
    | some verification =>
      match bounded_visible_cases cfg.floatText previewLimit verification.cases with
      | .error escape => .error escape
      | .ok rows => .ok (fields ++ [("supplemental_verification", Json.object [
          ("visibility", Json.string "public_supplemental"),
          ("files_sha256", .str (cfg.fingerprint ep.files)),
          ("passed", .int verification.passed),
          ("total", .int verification.total),
          ("cases", .arr (rows.map Json.obj)),
          ("specification_checks", .arr (cfg.verification_cases.map Json.obj)),
          ("note", Json.string
            "Authored public verification checks; not final hidden grading.")])])

end VerificationEpisode

/-! ## `PilotEpisode` -/

namespace PilotEpisode

def observation (cfg : Config) (ep : Episode) : Observation :=
  { RepoEpisode.observation cfg ep with
    verification := some (VerificationEpisode.view "forgebench-state-v3-pilot1" cfg ep) }

end PilotEpisode

/-! ## `AblationEpisode` -/

namespace AblationEpisode

def legal_actions (verify_enabled : Bool) (cfg : Config) (ep : Episode) (state : Observation) :
    List Action :=
  let actions := VerificationEpisode.legal_actions cfg ep state
  if verify_enabled then actions else actions.filter (fun action => action ≠ .verify)

end AblationEpisode

/-! ## Dispatch -/

namespace Episode

def observation (cfg : Config) (ep : Episode) : Observation :=
  match cfg.harness with
  | .repo => RepoEpisode.observation cfg ep
  | .verification => VerificationEpisode.observation cfg ep
  | .pilot | .ablation _ => PilotEpisode.observation cfg ep

def legal_actions (cfg : Config) (ep : Episode) (state : Observation) : List Action :=
  match cfg.harness with
  | .repo => Router.allowed_actions state
  | .verification | .pilot => VerificationEpisode.legal_actions cfg ep state
  | .ablation verify_enabled => AblationEpisode.legal_actions verify_enabled cfg ep state

def stop_after_visible_success (cfg : Config) : Bool :=
  match cfg.harness with
  | .repo => true
  | .verification | .pilot => false
  | .ablation verify_enabled => !verify_enabled

def feedback (cfg : Config) (ep : Episode) (action : Action) :
    Except Escape (List (String × Json)) :=
  match cfg.harness with
  | .repo => RepoEpisode.feedback cfg ep action
  | _ => VerificationEpisode.feedback cfg ep action

end Episode

/-- `PilotEpisode.select` -/
def PilotEpisode.select (cfg : Config) (ep : Episode) (state : Observation) :
    Except Escape Selection :=
  let legal := ep.legal_actions cfg state
  if .verify ∈ legal then .ok ⟨.verify, "shared_verify_on_visible_green"⟩
  else
    let signal := VerificationEpisode.routing_signal state
    let selected :=
      if cfg.policy = .supervised_cost then
        .ok (Router.choose_supervised signal cfg.controllers.supervised_cost)
      else Router.choose_action cfg.policy signal cfg.controllers.fitted_q
    match selected with
    | .error escape => .error escape
    | .ok selection =>
      if selection.action ∉ legal then
        .error (.valueError "Pilot selector violated legal action mask")
      else .ok selection

/-- The chooser of `run_verification_episode` without a selector. -/
def VerificationEpisode.choose (cfg : Config) (ep : Episode) (state : Observation) :
    Except Escape Selection :=
  if .verify ∈ ep.legal_actions cfg state then .ok ⟨.verify, "development_verify_on_green"⟩
  else Router.choose_action cfg.policy (VerificationEpisode.routing_signal state) none

end ForgeRL
