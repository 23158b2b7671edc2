import ForgeRL.Bench.Generate

namespace ForgeRL

open Library

/-!
# Every request is accounted for exactly once

Whatever the server does, a call whose reservation has committed leaves one
new row, settles it once and reports the amount of that row.  The row keeps
its full reservation exactly when the response supports no charge.

The argument is about `Reading.account`, and so about both providers at once.
They differ in the last clause: a retained reservation is named on the raised
exception by `RepoProvider` only.
-/

/-! ## Usable accounting -/

/-- The exchange has delivered a complete body within the limit. -/
def ReceivedBody (exchange : Exchange) (raw : List UInt8) : Prop :=
  ∃ response, exchange = .response response ∧ response.status_code = 200 ∧
    response.ending = .complete ∧ response.chunks.flatten = raw ∧ raw.length ≤ maxResponseBytes

theorem readBody_ok_iff (oversized : String) (chunks : List (List UInt8)) (ending : StreamEnd)
    {raw body : List UInt8} (short : raw.length ≤ maxResponseBytes) :
    readBody oversized raw chunks ending = .ok body ↔
      ending = .complete ∧ raw ++ chunks.flatten = body ∧ body.length ≤ maxResponseBytes := by
  induction chunks generalizing raw with
  | nil =>
      cases ending with
      | complete =>
          simp only [readBody, List.flatten_nil, List.append_nil, true_and]
          constructor
          · intro same
            cases same
            exact ⟨rfl, short⟩
          · rintro ⟨rfl, _⟩
            rfl
      | broken => simp [readBody]
      | cancelled => simp [readBody]
  | cons chunk chunks ih =>
      simp only [readBody]
      by_cases long : (raw ++ chunk).length > maxResponseBytes
      · rw [if_pos long]
        constructor
        · intro impossible
          cases impossible
        · rintro ⟨_, rfl, bounded⟩
          simp only [List.flatten_cons, List.length_append] at bounded long
          omega
      · rw [if_neg long, ih (not_lt.mp long), List.flatten_cons, List.append_assoc]

theorem exchangeBody_ok_iff (refused : ℕ → Option Text → Interruption) (oversized : String)
    (exchange : Exchange) (raw : List UInt8) :
    exchangeBody refused oversized exchange = .ok raw ↔ ReceivedBody exchange raw := by
  cases exchange with
  | broken => simp [exchangeBody, ReceivedBody]
  | cancelled => simp [exchangeBody, ReceivedBody]
  | response response =>
      simp only [exchangeBody, ReceivedBody]
      by_cases status : response.status_code = 200
      · rw [if_neg (not_not.mpr status), readBody_ok_iff _ _ _ (Nat.zero_le _)]
        simp [status]
      · rw [if_pos status]
        simp [status]

/-- The exchange supports a charge that the ledger can store. -/
def Reading.Supports (reading : Reading) (exchange : Exchange) : Prop :=
  ∃ accounting, reading.receive exchange = .ok accounting ∧
    accounting.charged ≤ Store.maxInteger

/-- The charge of usable token counts and, for OpenRouter, of a usable cost. -/
def RepoProvider.Priced (profile : Profile) (usage : JsonObject) (tokens : TokenUsage)
    (charged : ℤ) : Prop :=
  ∃ estimate, tokenCharge profile.input_rate profile.output_rate tokens = some estimate ∧
    if profile.isOpenrouter then
      ∃ cost, reportedCost (Json.field? usage "cost") = some (some cost) ∧
        costCharge cost = some charged
    else charged = estimate

/-- A complete decoded response with usable token counts and a charge that
fits 64 bits. -/
def RepoProvider.UsableAccounting (runtime : Runtime) (profile : Profile)
    (exchange : Exchange) : Prop :=
  ∃ raw data usage tokens charged, ReceivedBody exchange raw ∧
    runtime.loads raw = some (.obj data) ∧ RepoProvider.usageObject data = some usage ∧
    usageTokens usage = some tokens ∧ RepoProvider.Priced profile usage tokens charged ∧
    charged ≤ Store.maxInteger

def ReferenceProvider.UsableAccounting (runtime : Runtime) (exchange : Exchange) : Prop :=
  ∃ raw data usage tokens cost charged, ReceivedBody exchange raw ∧
    runtime.loads raw = some (.obj data) ∧ Json.field? data "usage" = some (.obj usage) ∧
    usageTokens usage = some tokens ∧
    reportedCost (Json.field? usage "cost") = some (some cost) ∧
    costCharge cost = some charged ∧ charged ≤ Store.maxInteger

theorem RepoProvider.charge_ok_iff (profile : Profile) (usage : JsonObject) (tokens : TokenUsage)
    (provider_id : Option Text) (charged : ℤ) :
    (∃ locals, RepoProvider.charge profile usage tokens provider_id = .ok (charged, locals)) ↔
      RepoProvider.Priced profile usage tokens charged := by
  unfold RepoProvider.charge RepoProvider.Priced
  cases estimated : tokenCharge profile.input_rate profile.output_rate tokens with
  | none => simp
  | some estimate =>
      cases vendor : profile.isOpenrouter with
      | false => simp [eq_comm]
      | true =>
          cases reported : reportedCost (Json.field? usage "cost") with
          | none => simp [reported]
          | some inner =>
              cases inner with
              | none => simp [reported]
              | some cost =>
                  cases priced : costCharge cost with
                  | none => simp [reported, priced]
                  | some amount => simp [reported, priced]

theorem ReferenceProvider.charge_ok {usage : JsonObject} {tokens : TokenUsage} {charged : ℤ}
    {locals : Locals} (accepted : ReferenceProvider.charge usage tokens = .ok (charged, locals)) :
    ∃ cost, reportedCost (Json.field? usage "cost") = some (some cost) ∧
      costCharge cost = some charged := by
  simp only [ReferenceProvider.charge] at accepted
  cases reported : reportedCost (Json.field? usage "cost") with
  | none => simp [reported] at accepted
  | some inner =>
      cases inner with
      | none => simp [reported] at accepted
      | some cost =>
          cases priced : costCharge cost with
          | none => simp [reported, priced] at accepted
          | some amount =>
              simp only [reported, priced, Except.ok.injEq, Prod.mk.injEq] at accepted
              exact ⟨cost, rfl, accepted.1 ▸ priced⟩

/-- What a received response has gone through. -/
theorem RepoProvider.receive_ok {runtime : Runtime} {profile : Profile} {exchange : Exchange}
    {accounting : Accounting}
    (received : RepoProvider.receive runtime profile exchange = .ok accounting) :
    ∃ raw usage, ReceivedBody exchange raw ∧ runtime.loads raw = some (.obj accounting.data) ∧
      RepoProvider.usageObject accounting.data = some usage ∧
      usageTokens usage = some accounting.usage ∧
      RepoProvider.Priced profile usage accounting.usage accounting.charged := by
  simp only [RepoProvider.receive] at received
  split at received
  · cases received
  · next raw body =>
      rw [exchangeBody_ok_iff] at body
      split at received
      · cases received
      · next data decoded =>
          split at received
          · cases received
          · next usage found =>
              split at received
              · cases received
              · next tokens counted =>
                  split at received
                  · cases received
                  · next charged locals priced =>
                      cases received
                      exact ⟨raw, usage, body, decoded, found, counted,
                        (RepoProvider.charge_ok_iff _ _ _ _ _).mp ⟨locals, priced⟩⟩
      · cases received

theorem ReferenceProvider.receive_ok {runtime : Runtime} {exchange : Exchange}
    {accounting : Accounting}
    (received : ReferenceProvider.receive runtime exchange = .ok accounting) :
    ∃ raw usage cost, ReceivedBody exchange raw ∧
      runtime.loads raw = some (.obj accounting.data) ∧
      Json.field? accounting.data "usage" = some (.obj usage) ∧
      usageTokens usage = some accounting.usage ∧
      reportedCost (Json.field? usage "cost") = some (some cost) ∧
      costCharge cost = some accounting.charged := by
  simp only [ReferenceProvider.receive] at received
  split at received
  · cases received
  · next raw body =>
      rw [exchangeBody_ok_iff] at body
      split at received
      · cases received
      · next data decoded =>
          split at received
          · next usage found =>
              split at received
              · cases received
              · next tokens counted =>
                  split at received
                  · cases received
                  · next charged locals priced =>
                      cases received
                      rcases ReferenceProvider.charge_ok priced with ⟨cost, reported, amount⟩
                      exact ⟨raw, usage, cost, body, decoded, found, counted, reported, amount⟩
          · cases received
      · cases received

theorem RepoProvider.supports_iff (runtime : Runtime) (profile : Profile) (strong : Bool)
    (messages : Json) (task : VisibleTask) (files : Files) (exchange : Exchange) :
    (RepoProvider.reading runtime profile strong messages task files).Supports exchange ↔
      RepoProvider.UsableAccounting runtime profile exchange := by
  constructor
  · rintro ⟨accounting, received, fits⟩
    rcases RepoProvider.receive_ok received with
      ⟨raw, usage, body, decoded, found, counted, priced⟩
    exact ⟨raw, accounting.data, usage, accounting.usage, accounting.charged, body, decoded,
      found, counted, priced, fits⟩
  · rintro ⟨raw, data, usage, tokens, charged, body, decoded, found, counted, priced, fits⟩
    rcases (RepoProvider.charge_ok_iff _ _ _ (textField data "provider") _).mpr priced with
      ⟨locals, charge⟩
    refine ⟨⟨data, tokens, charged, locals⟩, ?_, fits⟩
    simp only [RepoProvider.reading, RepoProvider.receive,
      (exchangeBody_ok_iff _ _ _ _).mpr body, decoded, found, counted, charge]

theorem ReferenceProvider.supports_iff (runtime : Runtime) (messages : Json) (task : VisibleTask)
    (files : Files) (exchange : Exchange) :
    (ReferenceProvider.reading runtime messages task files).Supports exchange ↔
      ReferenceProvider.UsableAccounting runtime exchange := by
  constructor
  · rintro ⟨accounting, received, fits⟩
    rcases ReferenceProvider.receive_ok received with
      ⟨raw, usage, cost, body, decoded, found, counted, reported, priced⟩
    exact ⟨raw, accounting.data, usage, accounting.usage, cost, accounting.charged, body,
      decoded, found, counted, reported, priced, fits⟩
  · rintro ⟨raw, data, usage, tokens, cost, charged, body, decoded, found, counted, reported,
      priced, fits⟩
    refine ⟨⟨data, tokens, charged,
      { Locals.counted tokens with reported_cost := Json.field? usage "cost" }⟩, ?_, fits⟩
    simp only [ReferenceProvider.reading, ReferenceProvider.receive, ReferenceProvider.charge,
      (exchangeBody_ok_iff _ _ _ _).mpr body, decoded, found, counted, reported, priced]

/-! ## Charges are not negative -/

theorem tokenPrice_nonneg {tokens : ℤ} {rate price : ℚ} (count : 0 ≤ tokens) (paid : 0 ≤ rate)
    (priced : tokenPrice tokens rate = some price) : 0 ≤ price := by
  simp only [tokenPrice, Option.bind_eq_bind, Option.bind_eq_some_iff] at priced
  rcases priced with ⟨float, converted, product⟩
  exact Binary64.mul?_nonneg (Binary64.ofInt?_nonneg count converted) paid product

theorem usageTokens_nonneg {usage : JsonObject} {tokens : TokenUsage}
    (counted : usageTokens usage = some tokens) :
    0 ≤ tokens.prompt_tokens ∧ 0 ≤ tokens.completion_tokens ∧
      tokens.prompt_tokens + tokens.completion_tokens ≤ tokens.total_tokens := by
  unfold usageTokens at counted
  split at counted
  · next incoming outgoing _ _ =>
      split at counted
      · cases counted
      · cases counted
        refine ⟨by simp only; omega, by simp only; omega, ?_⟩
        simp only
        split
        · split
          · exact le_refl _
          · next enough => exact not_lt.mp enough
        · exact le_refl _
  · cases counted

theorem tokenCharge_nonneg {input_rate output_rate : ℚ} {tokens : TokenUsage} {charged : ℤ}
    (input : 0 ≤ input_rate) (output : 0 ≤ output_rate) (incoming : 0 ≤ tokens.prompt_tokens)
    (outgoing : 0 ≤ tokens.completion_tokens)
    (total : tokens.prompt_tokens + tokens.completion_tokens ≤ tokens.total_tokens)
    (priced : tokenCharge input_rate output_rate tokens = some charged) : 0 ≤ charged := by
  simp only [tokenCharge, Option.bind_eq_bind, Option.bind_eq_some_iff, Option.some.injEq] at priced
  rcases priced with ⟨first, firstPrice, second, secondPrice, third, thirdPrice, both, bothSum, all,
    allSum, rfl⟩
  have classified : 0 ≤ both :=
    Binary64.add?_nonneg (tokenPrice_nonneg incoming input firstPrice)
      (tokenPrice_nonneg outgoing output secondPrice) bothSum
  have unclassified : 0 ≤ third :=
    tokenPrice_nonneg (by omega) (input.trans (le_max_left _ _)) thirdPrice
  exact Int.ceil_nonneg (Binary64.add?_nonneg classified unclassified allSum)

theorem reportedCost_nonneg {raw : Option Json} {cost : ℚ}
    (reported : reportedCost raw = some (some cost)) : 0 ≤ cost := by
  unfold reportedCost at reported
  split at reported
  · next amount =>
      split at reported
      · cases reported
      · next float converted =>
          split at reported
          · cases reported
          · next nonneg =>
              cases reported
              exact Binary64.ofInt?_nonneg (not_lt.mp nonneg) converted
  · next amount =>
      split at reported
      · cases reported
      · next nonneg =>
          cases reported
          exact not_lt.mp nonneg
  · cases reported

theorem costCharge_nonneg {cost : ℚ} {charged : ℤ} (nonneg : 0 ≤ cost)
    (priced : costCharge cost = some charged) : 0 ≤ charged := by
  simp only [costCharge, Option.bind_eq_bind, Option.bind_eq_some_iff, Option.some.injEq] at priced
  rcases priced with ⟨microUsd, product, rfl⟩
  exact Int.ceil_nonneg (Binary64.mul?_nonneg nonneg (by norm_num) product)

theorem Profile.rates_nonneg (profile : Profile) :
    0 ≤ profile.input_rate ∧ 0 ≤ profile.output_rate := by
  cases profile <;> norm_num [Profile.input_rate, Profile.output_rate, Profile.isOpenrouter,
    fiveCents]

/-- A reading never supports a negative charge. -/
def Reading.ChargesNonneg (reading : Reading) : Prop :=
  ∀ exchange accounting, reading.receive exchange = .ok accounting → 0 ≤ accounting.charged

theorem RepoProvider.reading_chargesNonneg (runtime : Runtime) (profile : Profile) (strong : Bool)
    (messages : Json) (task : VisibleTask) (files : Files) :
    (RepoProvider.reading runtime profile strong messages task files).ChargesNonneg := by
  intro exchange accounting received
  rcases RepoProvider.receive_ok received with
    ⟨_, usage, _, _, _, counted, estimate, estimated, price⟩
  rcases usageTokens_nonneg counted with ⟨incoming, outgoing, total⟩
  cases vendor : profile.isOpenrouter with
  | false =>
      simp only [vendor, Bool.false_eq_true, if_false] at price
      rw [price]
      exact tokenCharge_nonneg profile.rates_nonneg.1 profile.rates_nonneg.2 incoming outgoing total
        estimated
  | true =>
      simp only [vendor, if_true] at price
      rcases price with ⟨cost, reported, priced⟩
      exact costCharge_nonneg (reportedCost_nonneg reported) priced

theorem ReferenceProvider.reading_chargesNonneg (runtime : Runtime) (messages : Json)
    (task : VisibleTask) (files : Files) :
    (ReferenceProvider.reading runtime messages task files).ChargesNonneg := by
  intro exchange accounting received
  rcases ReferenceProvider.receive_ok received with ⟨_, _, cost, _, _, _, _, reported, priced⟩
  exact costCharge_nonneg (reportedCost_nonneg reported) priced

/-! ## The row of a call -/

/-- The cost that a call reports, on its result or on its exception. -/
def GenerateCall.reportedUsd (call : GenerateCall) : Option ℚ :=
  match call.outcome with
  | .ok result => some result.cost_usd
  | .error (.failure raised) => some raised.cost_usd
  | .error _ => none

def GenerateCall.accountingKind (call : GenerateCall) : Option AccountingKind :=
  match call.outcome with
  | .error (.failure raised) => raised.accounting_kind
  | _ => none

/-- What a call owes the ledger, given whether the exchange supports a charge. -/
structure GenerateCall.Accounted (call : GenerateCall) (before : Ledger) (usable : Prop) :
    Prop where
  refused : call.reservation = none →
    call.ledger = before ∧ call.sent = false ∧ call.settlements = []
  settled : ∀ ident, call.reservation = some ident →
    ∃ row, call.ledger.charges.rows = before.charges.rows ++ [row] ∧ row.id = ident ∧
      row.status ≠ .reserved ∧ call.settlements.length = 1 ∧
      call.reportedUsd = some (Store.usd row.charged) ∧
      ((row.status = .uncertain ∧ row.charged = row.reserved) ↔ ¬ usable) ∧
      (¬ usable → call.accountingKind = some .retained_reservation)

theorem noteAccess_charges (ledger : Ledger) (exchange : Exchange) :
    (noteAccess ledger exchange).charges = ledger.charges := by
  cases exchange with
  | broken => rfl
  | cancelled => rfl
  | response response =>
      simp only [noteAccess]
      split <;> rfl

/-- Settling the row that was appended last rewrites that row only. -/
theorem settled_last {ledger : Ledger} {rows : List Charge} {row : Charge}
    (stored : ledger.charges.rows = rows ++ [row]) (fresh : ∀ other ∈ rows, other.id ≠ row.id)
    (microUsd : Option ℤ) (usage : Option TokenUsage) :
    (Store.settled ledger row microUsd usage).charges.rows =
      rows ++ [Store.settleRow microUsd usage row] := by
  have earlier : rows.map (fun other =>
      if other.id = row.id then Store.settleRow microUsd usage other else other) = rows := by
    rw [List.map_congr_left (fun other member => if_neg (fresh other member))]
    exact List.map_id rows
  simp only [Store.settled, Table.update_rows, stored, List.map_append, List.map_singleton, earlier,
    if_true]

/-- An open reservation at the end of a ledger. -/
structure OpenRow (ledger before : Ledger) (row : Charge) : Prop where
  stored : ledger.charges.rows = before.charges.rows ++ [row]
  fresh : ∀ other ∈ before.charges.rows, other.id ≠ row.id
  status : row.status = .reserved
  fits : row.reserved ≤ Store.maxInteger

theorem OpenRow.settle {ledger before : Ledger} {row : Charge} (opened : OpenRow ledger before row)
    (microUsd : Option ℤ) (usage : Option TokenUsage)
    (fits : Store.settledAmount row microUsd ≤ Store.maxInteger) :
    Store.settle ledger row.id microUsd usage = .ok (Store.settled ledger row microUsd usage) := by
  refine Store.settle_of_reserved ?_ opened.status microUsd usage fits
  rw [opened.stored]
  exact List.mem_append_right _ List.mem_cons_self

theorem OpenRow.note {ledger before : Ledger} {row : Charge} (opened : OpenRow ledger before row)
    (exchange : Exchange) : OpenRow (noteAccess ledger exchange) before row :=
  ⟨by rw [noteAccess_charges, opened.stored], opened.fresh, opened.status, opened.fits⟩

theorem openRow_of_reserve {before opened : Ledger} {model : String} {microUsd : ℤ}
    {runId : Option RunId} {ident : Uuid} {now : ℚ}
    (committed : Store.reserve before .research model microUsd runId ident now = .ok opened) :
    OpenRow opened before (Store.reservedRow ident .research model microUsd now runId) := by
  rcases Store.reserve_ok committed with ⟨_, _, _, bounded, _, _, _, _, inserted⟩
  rcases Store.insertCharge_ok inserted with ⟨rows, fresh, _⟩
  refine ⟨rows, fresh, rfl, ?_⟩
  simp only [Store.reservedRow, Store.maxInteger]
  omega

section Account

variable {reading : Reading} {ledger before : Ledger} {row : Charge}

/-- A call that has kept its whole reservation. -/
structure Retained (reading : Reading) (before : Ledger) (row : Charge)
    (call : GenerateCall) : Prop where
  rows : call.ledger.charges.rows = before.charges.rows ++ [Store.settleRow none none row]
  reservation : call.reservation = some row.id
  settlements : call.settlements = [none]
  cost : call.reportedUsd = some (Store.usd row.reserved)
  kind : call.accountingKind =
    if reading.namesAccounting then some .retained_reservation else none

/-- A call that has settled a charge. -/
structure Charged (before : Ledger) (row : Charge) (call : GenerateCall) : Prop where
  settled : ∃ microUsd usage, 0 ≤ microUsd ∧
    call.ledger.charges.rows =
      before.charges.rows ++ [Store.settleRow (some microUsd) (some usage) row] ∧
    call.reservation = some row.id ∧ call.settlements = [some microUsd] ∧
    call.reportedUsd = some (Store.usd microUsd)

theorem Reading.retain_retained (opened : OpenRow ledger before row)
    (interruption : Interruption) (locals : Locals) :
    Retained reading before row
      (reading.retain ledger row.id row.reserved interruption locals) := by
  have committed := opened.settle none none opened.fits
  simp only [Reading.retain, committed]
  exact ⟨settled_last opened.stored opened.fresh none none, rfl, rfl, rfl, rfl⟩

theorem Reading.account_of_supports (opened : OpenRow ledger before row)
    (nonneg : reading.ChargesNonneg) {exchange : Exchange} (supports : reading.Supports exchange) :
    Charged before row (reading.account ledger row.id row.reserved exchange) := by
  rcases supports with ⟨accounting, received, fits⟩
  have positive := nonneg exchange accounting received
  have noted := opened.note exchange
  have committed := noted.settle (some accounting.charged) (some accounting.usage)
    (max_le (by decide) fits)
  have rows := settled_last noted.stored noted.fresh (some accounting.charged)
    (some accounting.usage)
  simp only [Reading.account, received, committed]
  -- The block after the settlement decides the outcome, not the cost.
  cases reading.deliver accounting with
  | error raised => exact ⟨_, _, positive, rows, rfl, rfl, rfl⟩
  | ok delivered => exact ⟨_, _, positive, rows, rfl, rfl, rfl⟩

theorem Reading.account_of_not_supports (opened : OpenRow ledger before row)
    {exchange : Exchange} (missing : ¬ reading.Supports exchange) :
    Retained reading before row (reading.account ledger row.id row.reserved exchange) := by
  have noted := opened.note exchange
  simp only [Reading.account]
  cases received : reading.receive exchange with
  | error raised => exact Reading.retain_retained noted _ _
  | ok accounting =>
      simp only
      cases committed : Store.settle (noteAccess ledger exchange) row.id
          (some accounting.charged) (some accounting.usage) with
      | error raised => exact Reading.retain_retained noted _ _
      | ok settled =>
          rcases Store.settle_ok committed with ⟨_, _, _, _, fits, _⟩
          exact absurd ⟨accounting, received, (le_max_right 0 _).trans fits⟩ missing

/-- A call on an open reservation is accounted for, unless it retains the
reservation and does not say so. -/
theorem Reading.account_accounted_iff (opened : OpenRow ledger before row)
    (nonneg : reading.ChargesNonneg) (exchange : Exchange) :
    (reading.account ledger row.id row.reserved exchange).Accounted before
        (reading.Supports exchange) ↔
      reading.namesAccounting = true ∨ reading.Supports exchange := by
  by_cases supports : reading.Supports exchange
  · rcases Reading.account_of_supports opened nonneg supports with
      ⟨microUsd, usage, positive, rows, reservation, settlements, cost⟩
    refine ⟨fun _ => Or.inr supports, fun _ => ⟨?_, ?_⟩⟩
    · intro none_
      rw [reservation] at none_
      cases none_
    · intro ident own
      rw [reservation] at own
      cases own
      refine ⟨_, rows, rfl, ?_, by rw [settlements]; rfl, ?_, ?_, fun unusable => absurd supports
        unusable⟩
      · simp [Store.settleRow]
      · rw [cost]
        simp only [Store.settleRow, Store.settledAmount, max_eq_right positive]
      · simp [Store.settleRow, supports]
  · have retained := Reading.account_of_not_supports opened supports
    constructor
    · intro accounted
      rcases accounted.settled row.id retained.reservation with ⟨_, _, _, _, _, _, _, kind⟩
      have named := kind supports
      rw [retained.kind] at named
      by_cases names : reading.namesAccounting = true
      · exact Or.inl names
      · rw [if_neg names] at named
        cases named
    · intro named
      have names := named.resolve_right supports
      refine ⟨?_, ?_⟩
      · intro none_
        rw [retained.reservation] at none_
        cases none_
      · intro ident own
        rw [retained.reservation] at own
        cases own
        refine ⟨_, retained.rows, rfl, ?_, by rw [retained.settlements]; rfl, retained.cost, ?_,
          fun _ => by rw [retained.kind, if_pos names]⟩
        · simp [Store.settleRow]
        · simp [Store.settleRow, Store.settledAmount, supports]

end Account

/-- Nothing is reserved: the reservation cannot be computed, or the ledger
refuses it. -/
def Refuses (model : String) (ledger : Ledger) (reserved : Except PromptError ℤ)
    (runId : Option RunId) (ident : Uuid) (now : ℚ) : Prop :=
  ∀ microUsd opened, reserved = .ok microUsd →
    Store.reserve ledger .research model microUsd runId ident now ≠ .ok opened

theorem unsent_accounted (ledger : Ledger) (raised : GenerateError) (usable : Prop) :
    (GenerateCall.unsent ledger raised).Accounted ledger usable :=
  ⟨fun _ => ⟨rfl, rfl, rfl⟩, fun _ impossible => by cases impossible⟩

theorem reserveAndAccount_accounted_iff {reading : Reading} (nonneg : reading.ChargesNonneg)
    (ledger : Ledger) (reserved : Except PromptError ℤ) (runId : Option RunId) (ident : Uuid)
    (now : ℚ) (exchange : Exchange) :
    (reserveAndAccount reading ledger reserved runId ident now exchange).Accounted ledger
        (reading.Supports exchange) ↔
      reading.namesAccounting = true ∨ Refuses reading.model ledger reserved runId ident now ∨
        reading.Supports exchange := by
  unfold reserveAndAccount Refuses
  cases reserved with
  | error raised => simp [unsent_accounted]
  | ok microUsd =>
      simp only
      cases committed : Store.reserve ledger .research reading.model microUsd runId ident now with
      | error raised =>
          refine ⟨fun _ => Or.inr (Or.inl ?_), fun _ => unsent_accounted ledger _ _⟩
          rintro _ opened ⟨⟩ impossible
          rw [committed] at impossible
          cases impossible
      | ok opened =>
          have account := Reading.account_accounted_iff (openRow_of_reserve committed) nonneg
            exchange
          refine account.trans (or_congr_right ⟨Or.inr, fun either => either.resolve_left ?_⟩)
          exact fun refuses => refuses microUsd opened rfl committed

/-- No request of the reference provider is reserved for these arguments. -/
def ReferenceProvider.Unreserved (runtime : Runtime) (ledger : Ledger) (task : VisibleTask)
    (files : Files) (feedback : Json) (action : String) (runId : Option RunId) (ident : Uuid)
    (now : ℚ) : Prop :=
  ∀ messages, ReferenceProvider.build_messages runtime task files feedback action = .ok messages →
    Refuses ReferenceProvider.model ledger
      (reservation runtime ReferenceProvider.input_rate ReferenceProvider.output_rate messages)
      runId ident now

/-- Exact accounting of every request.  Each call of `RepoProvider.generate`
is accounted for, whatever its arguments and the exchange.  A call of
`ReferenceProvider.generate` is accounted for exactly when it reserves nothing
or the exchange supports a charge: a retained reservation has no
`accounting_kind` there. -/
theorem generate_accounted (runtime : Runtime) (ledger : Ledger) (task : VisibleTask)
    (files : Files) (feedback : Json) (action : String) (runId : Option RunId) (ident : Uuid)
    (now : ℚ) (exchange : Exchange) :
    (∀ profile, (RepoProvider.generate runtime profile ledger task files feedback action runId
      ident now exchange).Accounted ledger
        (RepoProvider.UsableAccounting runtime profile exchange)) ∧
    ((ReferenceProvider.generate runtime ledger task files feedback action runId ident now
        exchange).Accounted ledger (ReferenceProvider.UsableAccounting runtime exchange) ↔
      ReferenceProvider.Unreserved runtime ledger task files feedback action runId ident now ∨
        ReferenceProvider.UsableAccounting runtime exchange) := by
  constructor
  · intro profile
    unfold RepoProvider.generate
    cases RepoProvider.build_messages runtime task files feedback action with
    | error raised => exact unsent_accounted ledger _ _
    | ok messages =>
        rw [← RepoProvider.supports_iff runtime profile (action = "strong") messages task files]
        exact (reserveAndAccount_accounted_iff
          (RepoProvider.reading_chargesNonneg runtime profile _ messages task files)
          ledger _ runId ident now exchange).mpr (Or.inl rfl)
  · unfold ReferenceProvider.generate ReferenceProvider.Unreserved
    cases built : ReferenceProvider.build_messages runtime task files feedback action with
    | error raised =>
        refine ⟨fun _ => Or.inl ?_, fun _ => unsent_accounted ledger _ _⟩
        intro messages impossible
        cases impossible
    | ok messages =>
        rw [← ReferenceProvider.supports_iff runtime messages task files]
        refine (reserveAndAccount_accounted_iff
          (ReferenceProvider.reading_chargesNonneg runtime messages task files)
          ledger _ runId ident now exchange).trans ?_
        simp only [ReferenceProvider.reading, Bool.false_eq_true, false_or, Except.ok.injEq,
          forall_eq']

/-! ## A reference request that fails in transit -/

def sampleRuntime : Runtime where
  floatText := fun _ => []
  loads := fun _ => none
  parseFloat := fun _ => none
  secondsUntil := fun _ => none
  extract := fun _ _ _ => .raised

def sampleTask : VisibleTask where
  title := Text.ofString "t"
  description := Text.ofString "d"
  success_criterion := Text.ofString "s"
  entrypoint := Text.ofString "rules:apply"
  allowed_edit_files := []
  visible_tests := []

def brokenReferenceCall : GenerateCall :=
  ReferenceProvider.generate sampleRuntime ⟨∅, none⟩ sampleTask ∅ .null "strong" none 1 0 .broken

set_option maxRecDepth 20000 in
theorem brokenReferenceCall_not_accounted :
    ¬ brokenReferenceCall.Accounted ⟨∅, none⟩
      (ReferenceProvider.UsableAccounting sampleRuntime .broken) := by
  intro accounted
  have call : brokenReferenceCall.reservation = some 1 ∧
      brokenReferenceCall.accountingKind = none := by decide +kernel
  rcases call with ⟨reserved, unnamed⟩
  have unusable : ¬ ReferenceProvider.UsableAccounting sampleRuntime .broken := by
    rintro ⟨_, _, _, _, _, _, ⟨response, impossible, _⟩, _⟩
    cases impossible
  rcases accounted.settled 1 reserved with ⟨_, _, _, _, _, _, _, named⟩
  rw [named unusable] at unnamed
  cases unnamed

end ForgeRL
