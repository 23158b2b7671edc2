import ForgeRL.Bench.Provider

namespace ForgeRL

open Library

/-!
# The two research providers

The readings differ in three places.  `RepoProvider` takes a missing usage for
an empty one and prices the tokens even where the reported cost decides;
`ReferenceProvider` fills in the identity of the response before it looks at
the choices; and only `RepoProvider` names the kind of accounting on the
exception it raises.
-/

/-! ## Profiles -/

inductive Profile where
  | openrouter
  | openrouter_dev
  | runpod
  | together
deriving DecidableEq, Repr

/-- `self.profile.startswith("openrouter")` -/
def Profile.isOpenrouter : Profile → Bool
  | .openrouter | .openrouter_dev => true
  | .runpod | .together => false

def Profile.model : Profile → Bool → String
  | .openrouter, false => "openai/gpt-oss-20b"
  | .openrouter, true => "openai/gpt-oss-120b"
  | .openrouter_dev, false => "openai/gpt-oss-20b:floor"
  | .openrouter_dev, true => "openai/gpt-oss-120b:floor"
  | .runpod, false => "ibm-granite/granite-4.0-h-small"
  | .runpod, true => "openai/gpt-oss-120b"
  | .together, false => "openai/gpt-oss-20b"
  | .together, true => "openai/gpt-oss-120b"

/-- The float that the literal `0.05` denotes. -/
def fiveCents : ℚ := 3602879701896397 / 72057594037927936

example : Binary64.round? (5 / 100) = some fiveCents := by decide +kernel

def Profile.input_rate (profile : Profile) : ℚ := if profile.isOpenrouter then fiveCents else 10

def Profile.output_rate (profile : Profile) : ℚ := if profile.isOpenrouter then 1 / 4 else 10

/-- `RepoProvider.max_tokens` -/
def maxOutputTokens : ℤ := 4096

/-- `RepoProvider._reservation` -/
def reservation (runtime : Runtime) (input_rate output_rate : ℚ) (messages : Json) :
    Except PromptError ℤ :=
  match encodedBytes runtime.floatText messages with
  | none => .error .unicodeEncodeError
  | some bytes =>
    let price : Option ℚ := do
      let incoming ← tokenPrice (bytes + 1024) input_rate
      let outgoing ← tokenPrice maxOutputTokens output_rate
      Binary64.add? incoming outgoing
    match price with
    | none => .error .overflowError
    | some price => .ok ⌈price⌉

/-- The reservation of a call and, once it has committed, its block. -/
def reserveAndAccount (reading : Reading) (ledger : Ledger) (reserved : Except PromptError ℤ)
    (runId : Option RunId) (ident : Uuid) (now : ℚ) (exchange : Exchange) : GenerateCall :=
  match reserved with
  | .error raised => .unsent ledger (.prompt raised)
  | .ok reserved =>
    match Store.reserve ledger .research reading.model reserved runId ident now with
    | .error raised => .unsent ledger (.store raised)
    | .ok opened => reading.account opened ident reserved exchange

/-! ## `RepoProvider` -/

namespace RepoProvider

/-- `data.get("usage") or {}`, when it is an object. -/
def usageObject (data : JsonObject) : Option JsonObject :=
  match Json.field? data "usage" with
  | none => some []
  | some value =>
    if value.isFalsy then some []
    else
      match value with
      | .obj usage => some usage
      | _ => none

/-- The charge of a response, with the locals that are set by then. -/
def charge (profile : Profile) (usage : JsonObject) (tokens : TokenUsage)
    (provider_id : Option Text) : Except (Interruption × Locals) (ℤ × Locals) :=
  match tokenCharge profile.input_rate profile.output_rate tokens with
  | none => .error (.other, Locals.counted tokens)
  | some estimate =>
    let locals := { Locals.counted tokens with provider_id := provider_id }
    if profile.isOpenrouter then
      let raw := Json.field? usage "cost"
      match reportedCost raw with
      | none => .error (.error "OpenRouter omitted usable cost accounting", locals)
      | some none => .error (.other, { locals with reported_cost := raw })
      | some (some cost) =>
        match costCharge cost with
        | none => .error (.other, { locals with reported_cost := raw })
        | some charged => .ok (charged, { locals with reported_cost := raw })
    else .ok (estimate, locals)

def receive (runtime : Runtime) (profile : Profile) (exchange : Exchange) :
    Except (Interruption × Locals) Accounting :=
  match exchangeBody (http_error runtime) "Provider response exceeds the bounded output limit"
      exchange with
  | .error interruption => .error (interruption, Locals.initial)
  | .ok raw =>
    match runtime.loads raw with
    | none => .error (.other, Locals.initial)
    | some (.obj data) =>
      match usageObject data with
      | none => .error (.error "Provider returned malformed usage", Locals.initial)
      | some usage =>
        match usageTokens usage with
        | none => .error (.error "Provider omitted usable token accounting", Locals.initial)
        | some tokens =>
          match charge profile usage tokens (textField data "provider") with
          | .error raised => .error raised
          | .ok (charged, locals) => .ok ⟨data, tokens, charged, locals⟩
    | some _ => .error (.error "Provider returned a malformed response", Locals.initial)

def deliver (runtime : Runtime) (profile : Profile) (model : String) (task : VisibleTask)
    (files : Files) (accounting : Accounting) :
    Except (Interruption × Locals) (Files × Text × Locals) :=
  match firstChoice accounting.data with
  | none => .error (.error "Provider returned no usable choices", accounting.locals)
  | some choice =>
    let locals := { accounting.locals with
      response_text := choiceContent choice
      request_id := textField accounting.data "id"
      finish_reason := Json.get? choice "finish_reason" }
    if profile = .openrouter ∧ locals.provider_id ≠ some (Text.ofString "CoreWeave") then
      .error (.error ("Pinned provider identity was not confirmed; " ++
        "result excluded from controlled evaluation"), locals)
    else if profile = .openrouter ∧
        textField accounting.data "model" ≠ some (Text.ofString model) then
      .error (.error ("Pinned model identity was not confirmed; " ++
        "result excluded from controlled evaluation"), locals)
    else
      extractCandidate runtime "Model returned no visible repository edit" task files locals

def reading (runtime : Runtime) (profile : Profile) (strong : Bool) (messages : Json)
    (task : VisibleTask) (files : Files) : Reading where
  model := profile.model strong
  messages := messages
  receive := receive runtime profile
  deliver := deliver runtime profile (profile.model strong) task files
  replacement := "Model request could not be completed; its accounted cost is retained."
  namesAccounting := true

/-- `RepoProvider.build_messages` -/
def build_messages (runtime : Runtime) (task : VisibleTask) (files : Files) (feedback : Json)
    (action : String) : Except PromptError Json :=
  if action ≠ "cheap" ∧ action ≠ "strong" then .error (.valueError "Unknown model role")
  else prompt_messages runtime.floatText task files feedback

/-- `RepoProvider.generate` -/
def generate (runtime : Runtime) (profile : Profile) (ledger : Ledger) (task : VisibleTask)
    (files : Files) (feedback : Json) (action : String) (runId : Option RunId) (ident : Uuid)
    (now : ℚ) (exchange : Exchange) : GenerateCall :=
  match build_messages runtime task files feedback action with
  | .error raised => .unsent ledger (.prompt raised)
  | .ok messages =>
    reserveAndAccount (reading runtime profile (action = "strong") messages task files) ledger
      (reservation runtime profile.input_rate profile.output_rate messages) runId ident now exchange

end RepoProvider

/-! ## `ReferenceProvider` -/

namespace ReferenceProvider

def model : String := "openai/gpt-4.1"

def providerName : String := "OpenAI"

def input_rate : ℚ := 2

def output_rate : ℚ := 8

/-- The charge of a response, with the locals that are set by then. -/
def charge (usage : JsonObject) (tokens : TokenUsage) :
    Except (Interruption × Locals) (ℤ × Locals) :=
  let locals := Locals.counted tokens
  let raw := Json.field? usage "cost"
  match reportedCost raw with
  | none => .error (.error "Reference provider omitted usable cost accounting", locals)
  | some none => .error (.other, { locals with reported_cost := raw })
  | some (some cost) =>
    match costCharge cost with
    | none => .error (.other, { locals with reported_cost := raw })
    | some charged => .ok (charged, { locals with reported_cost := raw })

def receive (runtime : Runtime) (exchange : Exchange) :
    Except (Interruption × Locals) Accounting :=
  match exchangeBody
      (fun status _ => .error ("Reference model provider returned HTTP " ++ toString status))
      "Reference response exceeds the bounded output limit" exchange with
  | .error interruption => .error (interruption, Locals.initial)
  | .ok raw =>
    match runtime.loads raw with
    | none => .error (.other, Locals.initial)
    | some (.obj data) =>
      match Json.field? data "usage" with
      | some (.obj usage) =>
        match usageTokens usage with
        | none =>
          .error (.error "Reference provider omitted usable token accounting", Locals.initial)
        | some tokens =>
          match charge usage tokens with
          | .error raised => .error raised
          | .ok (charged, locals) => .ok ⟨data, tokens, charged, locals⟩
      | _ => .error (.error "Reference provider returned malformed usage", Locals.initial)
    | some _ => .error (.error "Reference provider returned malformed usage", Locals.initial)

def deliver (runtime : Runtime) (task : VisibleTask) (files : Files) (accounting : Accounting) :
    Except (Interruption × Locals) (Files × Text × Locals) :=
  let named := { accounting.locals with
    provider_id := textField accounting.data "provider"
    request_id := textField accounting.data "id" }
  match firstChoice accounting.data with
  | none => .error (.error "Reference provider returned no usable choices", named)
  | some choice =>
    let locals := { named with
      response_text := choiceContent choice
      finish_reason := Json.get? choice "finish_reason" }
    if locals.provider_id ≠ some (Text.ofString providerName) then
      .error (.error "Reference provider identity mismatch; candidate excluded", locals)
    else if textField accounting.data "model" ≠ some (Text.ofString model) then
      .error (.error "Reference model identity mismatch; candidate excluded", locals)
    else
      extractCandidate runtime "Reference model returned no visible repository edit" task files
        locals

def reading (runtime : Runtime) (messages : Json) (task : VisibleTask) (files : Files) :
    Reading where
  model := model
  messages := messages
  receive := receive runtime
  deliver := deliver runtime task files
  replacement := "Reference request failed; its accounted cost is retained"
  -- The handler copies every other attribute, but not this one.
  namesAccounting := false

/-- `ReferenceProvider.build_messages` -/
def build_messages (runtime : Runtime) (task : VisibleTask) (files : Files) (feedback : Json)
    (action : String) : Except PromptError Json :=
  if action ≠ "strong" then
    .error (.providerError "The reference treatment supports only its fixed strong role")
  else RepoProvider.build_messages runtime task files feedback action

/-- `ReferenceProvider.generate` -/
def generate (runtime : Runtime) (ledger : Ledger) (task : VisibleTask) (files : Files)
    (feedback : Json) (action : String) (runId : Option RunId) (ident : Uuid) (now : ℚ)
    (exchange : Exchange) : GenerateCall :=
  match build_messages runtime task files feedback action with
  | .error raised => .unsent ledger (.prompt raised)
  | .ok messages =>
    reserveAndAccount (reading runtime messages task files) ledger
      (reservation runtime input_rate output_rate messages) runId ident now exchange

end ReferenceProvider

end ForgeRL
