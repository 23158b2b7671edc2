import ForgeRL.Bench.Task
import ForgeRL.Library.Rounding
import ForgeRL.Ledger.Store

namespace ForgeRL

open Library

/-!
# Hosted model requests

`RepoProvider.generate` reserves the price ceiling of a request, sends it, and
settles the reservation once: with the charge that the response supports, or
in full.  `ReferenceProvider.generate` repeats the same sequence for one fixed
model.  Both are one `try` block with one handler; `account` is that block,
and each provider keeps its own reading of the response.

The exchange with the server is an input.  The standard library is the
`Runtime`; a finished candidate extraction is a parameter of it, because the
accounting does not depend on which of its results occurs.
-/

/-! ## What a provider returns and raises -/

inductive AccountingKind where
  | retained_reservation
  | provider_reported
  | token_estimate
deriving DecidableEq, Repr

/-- `RepoResult`, without its times and the request configuration. -/
structure RepoResult where
  files : Files
  model : String
  prompt_tokens : ℤ
  completion_tokens : ℤ
  total_tokens : ℤ
  cost_usd : ℚ
  request_id : Option Text
  finish_reason : Option Json
  prompt_messages : Json
  response_text : Text
  provider_id : Option Text
  provider_reported_cost_usd : Option Json

inductive FailureKind where
  | providerError
  | invalidCandidate
  | budgetExceeded
  | cancelled
deriving DecidableEq, Repr

/-- The attributes of a raised exception that a caller reads. -/
structure ProviderFailure where
  kind : FailureKind
  message : String
  cost_usd : ℚ
  accounting_kind : Option AccountingKind
  model : Option String
  prompt_tokens : Option ℤ
  completion_tokens : Option ℤ
  total_tokens : Option ℤ
  request_id : Option Text
  finish_reason : Option Json
  prompt_messages : Option Json
  response_text : Option Json
  provider_id : Option Text
  provider_reported_cost_usd : Option Json
  http_status : Option ℕ
  retry_after_s : Option ℚ

inductive GenerateError where
  /-- Raised before anything is reserved. -/
  | prompt (raised : PromptError)
  | store (raised : StoreError)
  | failure (raised : ProviderFailure)

/-! ## The exchange with the server -/

/-- How the stream of a response body ends. -/
inductive StreamEnd where
  | complete
  | broken
  | cancelled
deriving DecidableEq, Repr

structure Response where
  status_code : ℕ
  /-- The header "Retry-After". -/
  retry_after : Option Text
  chunks : List (List UInt8)
  ending : StreamEnd

inductive Exchange where
  /-- An exception of the transport, or of encoding the request. -/
  | broken
  | cancelled
  | response (response : Response)

/-- The result of `extract_files`. -/
inductive Extraction where
  | files (candidate : Files)
  | invalid (message : String)
  | raised

structure Runtime where
  floatText : ℚ → Text
  /-- `json.loads` of a response body, when it does not raise. -/
  loads : List UInt8 → Option Json
  /-- `float` of a text, when it does not raise. -/
  parseFloat : Text → Option JsonFloat
  /-- The seconds until the HTTP date of a text. -/
  secondsUntil : Text → Option ℚ
  extract : Text → VisibleTask → Files → Extraction

/-- The exception that reaches the handler. -/
inductive Interruption where
  | provider (message : String) (invalid : Bool) (http_status : Option ℕ)
      (retry_after_s : Option ℚ)
  | cancelled
  /-- Any other exception; the handler replaces it. -/
  | other
deriving DecidableEq, Repr

def Interruption.error (message : String) : Interruption := .provider message false none none

def Interruption.invalidCandidate (message : String) : Interruption :=
  .provider message true none none

/-- The delay that `http_error` reads off a rate limit. -/
def retryDelay (runtime : Runtime) (status : ℕ) (header : Option Text) : Option ℚ :=
  if status ≠ 429 then none
  else
    match header with
    | none => none
    | some text =>
      match runtime.parseFloat text with
      | some (.finite delay) => if 0 ≤ delay then some delay else none
      | some _ => none
      | none =>
        match runtime.secondsUntil text with
        | some delay => if 0 ≤ delay then some delay else none
        | none => none

def http_error (runtime : Runtime) (status : ℕ) (retry_after : Option Text) : Interruption :=
  .provider ("Model provider returned HTTP " ++ toString status) false (some status)
    (retryDelay runtime status retry_after)

def maxResponseBytes : ℕ := 160000

/-- The loop over the chunks of a body. -/
def readBody (oversized : String) (raw : List UInt8) :
    List (List UInt8) → StreamEnd → Except Interruption (List UInt8)
  | [], .complete => .ok raw
  | [], .broken => .error .other
  | [], .cancelled => .error .cancelled
  | chunk :: chunks, ending =>
    if (raw ++ chunk).length > maxResponseBytes then .error (.error oversized)
    else readBody oversized (raw ++ chunk) chunks ending

/-- The body of the exchange; any status but 200 is an error. -/
def exchangeBody (refused : ℕ → Option Text → Interruption) (oversized : String) :
    Exchange → Except Interruption (List UInt8)
  | .broken => .error .other
  | .cancelled => .error .cancelled
  | .response response =>
    if response.status_code ≠ 200 then .error (refused response.status_code response.retry_after)
    else readBody oversized [] response.chunks response.ending

/-- The ledger after the exchange: HTTP 401, 402 and 403 pause inference. -/
def noteAccess (ledger : Ledger) : Exchange → Ledger
  | .response response =>
    if response.status_code = 401 ∨ response.status_code = 402 ∨ response.status_code = 403 then
      Store.recordProviderAccess ledger
    else ledger
  | _ => ledger

/-! ## Usage and price -/

/-- The usable token counts of a usage object. -/
def usageTokens (usage : JsonObject) : Option TokenUsage :=
  match Json.field? usage "prompt_tokens", Json.field? usage "completion_tokens" with
  | some (.int incoming), some (.int outgoing) =>
    if min incoming outgoing < 0 then none
    else
      let total := match Json.field? usage "total_tokens" with
        | some (.int total) => if total < incoming + outgoing then incoming + outgoing else total
        | _ => incoming + outgoing
      some ⟨incoming, outgoing, total⟩
  | _, _ => none

/-- `rate * tokens` in floats. -/
def tokenPrice (tokens : ℤ) (rate : ℚ) : Option ℚ := do
  let float ← Binary64.ofInt? tokens
  Binary64.mul? float rate

/-- The token estimate of the charge, in micro-USD.  Without a finite float
the source raises. -/
def tokenCharge (input_rate output_rate : ℚ) (usage : TokenUsage) : Option ℤ := do
  let incoming ← tokenPrice usage.prompt_tokens input_rate
  let outgoing ← tokenPrice usage.completion_tokens output_rate
  let unclassified ← tokenPrice (usage.total_tokens - usage.prompt_tokens - usage.completion_tokens)
    (max input_rate output_rate)
  let classified ← Binary64.add? incoming outgoing
  let price ← Binary64.add? classified unclassified
  some ⌈price⌉

/-- A reported cost that is a finite nonnegative number, as a float.  The
outer level is missing when the number is unusable, the inner level when the
conversion of an integer raises. -/
def reportedCost : Option Json → Option (Option ℚ)
  | some (.int cost) =>
    match Binary64.ofInt? cost with
    | none => some none
    | some float => if cost < 0 then none else some (some float)
  | some (.float (.finite cost)) => if cost < 0 then none else some (some cost)
  | _ => none

/-- `math.ceil(reported_cost * 1e6)` -/
def costCharge (cost : ℚ) : Option ℤ := do
  let microUsd ← Binary64.mul? cost 1000000
  some ⌈microUsd⌉

/-! ## Reading a response -/

/-- The local variables that the handler copies to the exception. -/
structure Locals where
  incoming : Option ℤ
  outgoing : Option ℤ
  total : Option ℤ
  response_text : Option Json
  request_id : Option Text
  finish_reason : Option Json
  provider_id : Option Text
  reported_cost : Option Json

def Locals.initial : Locals := ⟨none, none, none, none, none, none, none, none⟩

def Locals.counted (usage : TokenUsage) : Locals :=
  { Locals.initial with
    incoming := some usage.prompt_tokens
    outgoing := some usage.completion_tokens
    total := some usage.total_tokens }

/-- What a response supports before the settlement. -/
structure Accounting where
  data : JsonObject
  usage : TokenUsage
  charged : ℤ
  locals : Locals

/-- The value of a field when it is a text. -/
def textField (fields : JsonObject) (name : String) : Option Text :=
  match Json.field? fields name with
  | some (.str text) => some text
  | _ => none

/-- The first choice of a response, when it is an object. -/
def firstChoice (data : JsonObject) : Option JsonObject :=
  match Json.field? data "choices" with
  | some (.arr (.obj choice :: _)) => some choice
  | _ => none

/-- `message.get("content")` of a choice. -/
def choiceContent (choice : JsonObject) : Option Json :=
  match Json.field? choice "message" with
  | some (.obj message) => Json.get? message "content"
  | _ => none

/-! ## The block and its handler -/

/-- One call of `generate` on a ledger. -/
structure GenerateCall where
  ledger : Ledger
  /-- The row that the call has reserved. -/
  reservation : Option Uuid
  /-- The request went out. -/
  sent : Bool
  /-- The committed settlements of the call. -/
  settlements : List (Option ℤ)
  outcome : Except GenerateError RepoResult

/-- A call that ends before it has reserved anything. -/
def GenerateCall.unsent (ledger : Ledger) (raised : GenerateError) : GenerateCall :=
  ⟨ledger, none, false, [], .error raised⟩

/-- What one provider does with a response. -/
structure Reading where
  model : String
  messages : Json
  /-- The block up to the settlement. -/
  receive : Exchange → Except (Interruption × Locals) Accounting
  /-- The block after the settlement. -/
  deliver : Accounting → Except (Interruption × Locals) (Files × Text × Locals)
  /-- The message of an exception that the handler replaces. -/
  replacement : String
  /-- The handler sets `accounting_kind`. -/
  namesAccounting : Bool

/-- The exception that the handler raises. -/
def Reading.failure (reading : Reading) (interruption : Interruption) (locals : Locals)
    (accounted : ℤ) (retained : Bool) : ProviderFailure :=
  let kind : FailureKind := match interruption with
    | .provider _ true _ _ => .invalidCandidate
    | .cancelled => .cancelled
    | _ => .providerError
  let message := match interruption with
    | .provider message _ _ _ => message
    | .cancelled => ""
    | .other => reading.replacement
  { kind := kind
    message := message
    cost_usd := Store.usd accounted
    accounting_kind :=
      if reading.namesAccounting then
        some (if retained then .retained_reservation
          else if locals.reported_cost.isSome then .provider_reported else .token_estimate)
      else none
    model := some reading.model
    prompt_tokens := locals.incoming
    completion_tokens := locals.outgoing
    total_tokens := locals.total
    request_id := locals.request_id
    finish_reason := locals.finish_reason
    prompt_messages := some reading.messages
    response_text := locals.response_text
    provider_id := locals.provider_id
    provider_reported_cost_usd := locals.reported_cost
    http_status := match interruption with | .provider _ _ status _ => status | _ => none
    retry_after_s := match interruption with | .provider _ _ _ delay => delay | _ => none }

/-- The handler while the reservation is open: it is settled in full. -/
def Reading.retain (reading : Reading) (ledger : Ledger) (ident : Uuid) (reserved : ℤ)
    (interruption : Interruption) (locals : Locals) : GenerateCall :=
  match Store.settle ledger ident none none with
  | .error raised => ⟨ledger, some ident, true, [], .error (.store raised)⟩
  | .ok settled =>
    ⟨settled, some ident, true, [none],
      .error (.failure (reading.failure interruption locals reserved true))⟩

/-- The block of `generate` after the reservation. -/
def Reading.account (reading : Reading) (ledger : Ledger) (ident : Uuid) (reserved : ℤ)
    (exchange : Exchange) : GenerateCall :=
  let noted := noteAccess ledger exchange
  match reading.receive exchange with
  | .error (interruption, locals) => reading.retain noted ident reserved interruption locals
  | .ok accounting =>
    match Store.settle noted ident (some accounting.charged) (some accounting.usage) with
    | .error _ => reading.retain noted ident reserved .other accounting.locals
    | .ok settled =>
      match reading.deliver accounting with
      | .error (interruption, locals) =>
        ⟨settled, some ident, true, [some accounting.charged],
          .error (.failure (reading.failure interruption locals accounting.charged false))⟩
      | .ok (candidate, response_text, locals) =>
        ⟨settled, some ident, true, [some accounting.charged], .ok {
          files := candidate
          model := reading.model
          prompt_tokens := accounting.usage.prompt_tokens
          completion_tokens := accounting.usage.completion_tokens
          total_tokens := accounting.usage.total_tokens
          cost_usd := Store.usd accounting.charged
          request_id := locals.request_id
          finish_reason := locals.finish_reason
          prompt_messages := reading.messages
          response_text := response_text
          provider_id := locals.provider_id
          provider_reported_cost_usd := locals.reported_cost }⟩

/-- The extraction at the end of the block. -/
def extractCandidate (runtime : Runtime) (missing : String) (task : VisibleTask) (files : Files)
    (locals : Locals) : Except (Interruption × Locals) (Files × Text × Locals) :=
  match locals.response_text with
  | some (.str text) =>
    match runtime.extract text task files with
    | .files candidate => .ok (candidate, text, locals)
    | .invalid message => .error (.invalidCandidate message, locals)
    | .raised => .error (.other, locals)
  | _ => .error (.invalidCandidate missing, locals)

end ForgeRL
