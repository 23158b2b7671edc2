import ForgeRL.Ledger.Store
import ForgeRL.Library.Json
import ForgeRL.Library.Decoder
import ForgeRL.Library.Machine
import ForgeRL.Library.Sliding
import Mathlib.Data.Real.Basic

namespace ForgeRL

open Library

/-!
# The public queue

`Store` keeps one row for each run of the public demonstration.  A run is
admitted while fewer than three runs are queued or running, and while its
session and its address have not used up their allowance of the last 24 hours.
The worker rewrites the status and the result of a row, a restart interrupts
what was running, and the identifiers of a row are erased after two days.

The allowance is counted over the stored rows.  A row loses its identifiers
only when it is too old for any later count, so the counts are those of the
rows as they were admitted.
-/

inductive RunStatus where
  | queued
  | running
  | interrupted
  /-- Any other text that a result carries as its status. -/
  | other (text : String)
deriving DecidableEq, Repr

inductive RunMode where
  | live
  | recorded
deriving DecidableEq, Repr

/-- A row of `runs`, with its result as `json.loads` reads it back. -/
structure RunRow where
  id : Uuid
  taskId : String
  policy : String
  status : RunStatus
  created : ℚ
  sessionHash : Option String
  ipHash : Option String
  result : JsonObject
  mode : RunMode

abbrev Runs := Table RunRow Uuid RunRow.id

/-- Queued or running. -/
def RunRow.Active (row : RunRow) : Prop := row.status = .queued ∨ row.status = .running

instance : DecidablePred RunRow.Active :=
  fun row => inferInstanceAs (Decidable (row.status = .queued ∨ row.status = .running))

inductive QueueError where
  /-- `AdmissionError` -/
  | admission (message : String)
  /-- A primary key that is already present. -/
  | integrity
deriving DecidableEq, Repr

namespace Queue

def maxActive : ℕ := 3

def sessionLimit : ℕ := 2

def ipLimit : ℕ := 3

def day : ℚ := 86400

def erasureAge : ℚ := 172800

def activeCount (runs : Runs) : ℕ := runs.rows.countP fun row => row.Active

/-- The count of `Store.admit` for a column and a value. -/
def allowanceUsed (runs : Runs) (field : RunRow → Option String) (value : String) (now : ℚ) : ℕ :=
  runs.rows.countP fun row =>
    field row = some value ∧ row.created > now - day ∧ row.mode = .live

def admittedRow (taskId policy sessionHash ipHash : String) (ident : Uuid) (now : ℚ) : RunRow where
  id := ident
  taskId := taskId
  policy := policy
  status := .queued
  created := now
  sessionHash := some sessionHash
  ipHash := some ipHash
  result := []
  mode := .live

/-- `Store.admit` -/
def admitRun (runs : Runs) (taskId policy sessionHash ipHash : String) (ident : Uuid) (now : ℚ) :
    Except QueueError Runs :=
  if activeCount runs ≥ maxActive then
    .error (.admission "The live queue is full. Explore a recorded run while it clears.")
  else if allowanceUsed runs RunRow.sessionHash sessionHash now ≥ sessionLimit ∨
      allowanceUsed runs RunRow.ipHash ipHash now ≥ ipLimit then
    .error (.admission
      "Your daily live-run allowance has been used. Recorded runs remain available.")
  else
    match runs.insert? (admittedRow taskId policy sessionHash ipHash ident now) with
    | none => .error .integrity
    | some runs => .ok runs

/-- The oldest queued row: `ORDER BY created LIMIT 1`. -/
def firstQueued : List RunRow → Option RunRow
  | [] => none
  | row :: rows =>
    match firstQueued rows with
    | none => if row.status = .queued then some row else none
    | some held => if row.status = .queued ∧ row.created ≤ held.created then some row else some held

/-- `Store.claim`: the runs and the claimed row, as it was read. -/
def claim (runs : Runs) : Runs × Option RunRow :=
  match firstQueued runs.rows with
  | none => (runs, none)
  | some row =>
    (runs.update (fun other => other.id = row.id) (fun other => { other with status := .running })
      (fun _ => rfl), some row)

/-- `uuid4().hex` -/
def hexText (ident : Uuid) : String :=
  let digits := Nat.toDigits 16 ident
  String.ofList (List.replicate (32 - digits.length) '0' ++ digits)

/-- `sum(...) / 1e6` -/
def dollars (microUsd : ℤ) : Json :=
  match Binary64.round? ((microUsd : ℚ) / 1000000) with
  | some value => .float (.finite value)
  | none => .float (.infinity (microUsd < 0))

/-- The result of an interrupted run, with the charges that it has made. -/
def restartedResult (charges : Charges) (row : RunRow) : JsonObject :=
  let own := charges.rows.filter fun charge => charge.runId = some (.plain (hexText row.id))
  let spent : JsonObject :=
    if own.isEmpty then row.result
    else
      let priced := Json.setField row.result (Text.ofString "cost_usd")
        (dollars (own.map Charge.charged).sum)
      let counted := Json.setField priced (Text.ofString "tokens") .null
      Json.setField counted (Text.ofString "tokens_complete") (.bool false)
  let explained := Json.setField spent (Text.ofString "error") (Json.string
    "The worker restarted; outstanding reservations are retained and this run was not replayed.")
  let stopped := Json.setField explained (Text.ofString "stop_reason")
    (Json.string "worker_restart")
  Json.setField stopped (Text.ofString "solved") (.bool false)

/-- The update that erases the identifiers of old rows. -/
def eraseIdentifiers (runs : Runs) (now : ℚ) : Runs :=
  runs.update (fun row => row.created < now - erasureAge)
    (fun row => { row with sessionHash := none, ipHash := none }) (fun _ => rfl)

/-- `Store.recover` -/
def recover (runs : Runs) (charges : Charges) (now : ℚ) : Runs :=
  eraseIdentifiers (runs.update (fun row => row.status = .running)
    (fun row => { row with status := .interrupted, result := restartedResult charges row })
    (fun _ => rfl)) now

/-- `Store.expire_identifiers`.  Rows without identifiers are left out of the
update, which would not change them. -/
def expireIdentifiers (runs : Runs) (now : ℚ) : Runs :=
  runs.update (fun row => row.created < now - erasureAge ∧
      (row.sessionHash ≠ none ∨ row.ipHash ≠ none))
    (fun row => { row with sessionHash := none, ipHash := none }) (fun _ => rfl)

/-- `Store.finish_run`, with the status that the result carries. -/
def finishRun (runs : Runs) (ident : Uuid) (status : RunStatus) (result : JsonObject) : Runs :=
  runs.update (fun row => row.id = ident) (fun row => { row with status := status, result := result })
    (fun _ => rfl)

/-! ## Interleavings -/

inductive Operation where
  | admitRun (taskId policy sessionHash ipHash : String) (ident : Uuid) (now : ℚ)
  | claim
  | recover (charges : Charges) (now : ℚ)
  | expireIdentifiers (now : ℚ)
  | finishRun (ident : Uuid) (status : RunStatus) (result : JsonObject)

/-- The runs together with their past. -/
structure World where
  runs : Runs
  clock : ℚ
  /-- The rows ever admitted, as they were admitted. -/
  admitted : List RunRow
  /-- The runs ever claimed, once for each time. -/
  claimed : List Uuid

namespace World

def initial (clock : ℚ) : World := ⟨∅, clock, [], []⟩

/-- One transaction: a raise rolls back. -/
def step (world : World) : Operation → World
  | .admitRun taskId policy sessionHash ipHash ident now =>
    match Queue.admitRun world.runs taskId policy sessionHash ipHash ident now with
    | .error _ => { world with clock := now }
    | .ok runs => {
        world with
        runs := runs
        clock := now
        admitted := world.admitted ++ [admittedRow taskId policy sessionHash ipHash ident now] }
  | .claim => {
      world with
      runs := (Queue.claim world.runs).1
      claimed := world.claimed ++ ((Queue.claim world.runs).2.map RunRow.id).toList }
  | .recover charges now => {
      world with
      runs := Queue.recover world.runs charges now
      clock := now }
  | .expireIdentifiers now => {
      world with
      runs := Queue.expireIdentifiers world.runs now
      clock := now }
  | .finishRun ident status result => {
      world with
      runs := Queue.finishRun world.runs ident status result }

end World

/-- The clock does not go back, and only a running row is finished, with a
status other than queued. -/
def Allowed (world : World) : Operation → Prop
  | .admitRun _ _ _ _ _ now => world.clock ≤ now
  | .claim => True
  | .recover _ now => world.clock ≤ now
  | .expireIdentifiers now => world.clock ≤ now
  | .finishRun ident status _ =>
    status ≠ .queued ∧ ∃ row ∈ world.runs.rows, row.id = ident ∧ row.status = .running

instance (world : World) : (operation : Operation) → Decidable (Allowed world operation)
  | .admitRun _ _ _ _ _ now => inferInstanceAs (Decidable (world.clock ≤ now))
  | .claim => isTrue trivial
  | .recover _ now => inferInstanceAs (Decidable (world.clock ≤ now))
  | .expireIdentifiers now => inferInstanceAs (Decidable (world.clock ≤ now))
  | .finishRun ident status _ => inferInstanceAs (Decidable
    (status ≠ .queued ∧ ∃ row ∈ world.runs.rows, row.id = ident ∧ row.status = .running))

/-! ## What each transaction does -/

theorem admitRun_ok {runs after : Runs} {taskId policy sessionHash ipHash : String} {ident : Uuid}
    {now : ℚ} (committed : admitRun runs taskId policy sessionHash ipHash ident now = .ok after) :
    activeCount runs < maxActive ∧
      allowanceUsed runs RunRow.sessionHash sessionHash now < sessionLimit ∧
      allowanceUsed runs RunRow.ipHash ipHash now < ipLimit ∧
      after.rows = runs.rows ++ [admittedRow taskId policy sessionHash ipHash ident now] ∧
      ∀ row ∈ runs.rows, row.id ≠ ident := by
  unfold admitRun at committed
  split at committed
  · cases committed
  · next room =>
      split at committed
      · cases committed
      · next allowance =>
          split at committed
          · cases committed
          · next stored inserted =>
              cases committed
              push Not at room allowance
              rcases Table.insert?_eq_some inserted with ⟨rows, fresh⟩
              exact ⟨room, allowance.1, allowance.2, rows, fresh⟩

theorem firstQueued_some {rows : List RunRow} {row : RunRow} (found : firstQueued rows = some row) :
    row ∈ rows ∧ row.status = .queued := by
  apply scan_eq_some (fun row : RunRow => row.status = .queued)
    (fun row held => row.created ≤ held.created) rfl _ found
  intro row rows
  rw [firstQueued]
  cases firstQueued rows <;> rfl

/-- Rewriting rows cannot raise the count of active rows, unless it makes a row
active that was not. -/
theorem activeCount_update_le (runs : Runs) {condition : RunRow → Prop} [DecidablePred condition]
    {change : RunRow → RunRow} (keeps : ∀ row, (change row).id = row.id)
    (stays : ∀ row ∈ runs.rows, condition row → (change row).Active → row.Active) :
    activeCount (runs.update condition change keeps) ≤ activeCount runs := by
  rw [activeCount, activeCount, Table.update_rows, List.countP_map]
  apply List.countP_mono_left
  intro row member counted
  simp only [Function.comp_apply, decide_eq_true_eq] at counted ⊢
  split at counted
  · next selected => exact stays row member selected counted
  · exact counted

/-- A stored row beside the row as it was admitted.  Identifiers are there, or
the row is old. -/
structure Stored (clock : ℚ) (first row : RunRow) : Prop where
  key : row.id = first.id
  created : row.created = first.created
  mode : row.mode = .live
  identifiers : (row.sessionHash = first.sessionHash ∧ row.ipHash = first.ipHash) ∨
    row.created < clock - erasureAge

theorem Stored.later {clock now : ℚ} {first row : RunRow} (stored : Stored clock first row)
    (monotone : clock ≤ now) : Stored now first row := by
  refine ⟨stored.key, stored.created, stored.mode, stored.identifiers.imp_right ?_⟩
  intro old
  linarith

/-- A row that keeps its key, its time and its identifiers. -/
theorem Stored.same {clock : ℚ} {first row other : RunRow} (stored : Stored clock first row)
    (key : other.id = row.id) (created : other.created = row.created) (mode : other.mode = row.mode)
    (session : other.sessionHash = row.sessionHash) (ip : other.ipHash = row.ipHash) :
    Stored clock first other := by
  refine ⟨key.trans stored.key, created.trans stored.created, mode.trans stored.mode, ?_⟩
  rw [session, ip, created]
  exact stored.identifiers

/-- A row that loses its identifiers when it is old. -/
theorem Stored.erased {clock : ℚ} {first row : RunRow} (stored : Stored clock first row)
    (old : row.created < clock - erasureAge) :
    Stored clock first { row with sessionHash := none, ipHash := none } :=
  ⟨stored.key, stored.created, stored.mode, Or.inr old⟩

/-- Rewriting rows that keeps `Stored`, row by row. -/
theorem stored_update {clock : ℚ} {admitted : List RunRow} {runs : Runs}
    (stored : List.Forall₂ (Stored clock) admitted runs.rows)
    {condition : RunRow → Prop} [DecidablePred condition] {change : RunRow → RunRow}
    (keeps : ∀ row, (change row).id = row.id)
    (kept : ∀ first row, Stored clock first row → condition row → Stored clock first (change row)) :
    List.Forall₂ (Stored clock) admitted (runs.update condition change keeps).rows := by
  rw [Table.update_rows, List.forall₂_map_right_iff]
  refine stored.imp fun first row pair => ?_
  split
  · next selected => exact kept first row pair selected
  · exact pair

/-- The allowance that is counted over the stored rows is at least the one over
the rows as they were admitted. -/
theorem recentCount_le_allowanceUsed {clock now : ℚ} {admitted : List RunRow} {runs : Runs}
    (stored : List.Forall₂ (Stored clock) admitted runs.rows) (monotone : clock ≤ now)
    {field : RunRow → Option String}
    (identified : ∀ first row : RunRow, row.sessionHash = first.sessionHash →
      row.ipHash = first.ipHash → field row = field first) (value : String) :
    recentCount (fun row => field row = some value) (fun row => (row.created : ℝ))
      ((now : ℝ) - day) admitted ≤ allowanceUsed runs field value now := by
  refine countP_le_of_forall₂ ?_ stored
  intro first row pair counted
  simp only [decide_eq_true_eq] at counted ⊢
  have recent : now - day < first.created := by exact_mod_cast counted.2
  have age : erasureAge = 172800 := rfl
  have width : day = 86400 := rfl
  rcases pair.identifiers with same | old
  · refine ⟨(identified first row same.1 same.2).trans counted.1, ?_, pair.mode⟩
    rw [pair.created]
    exact recent
  · rw [pair.created] at old
    exfalso
    linarith

/-! ## The invariant -/

/-- The quota of one kind of identifier, in every window. -/
def QuotaHeld (field : RunRow → Option String) (limit : ℕ) (admitted : List RunRow) : Prop :=
  ∀ (value : String) (instant : ℝ),
    windowCount (fun row => field row = some value) (fun row => (row.created : ℝ)) (day : ℝ) instant
      admitted ≤ limit

theorem QuotaHeld.within {field : RunRow → Option String} {limit : ℕ} {admitted : List RunRow}
    (held : QuotaHeld field limit admitted) (value : String) (instant : ℝ) :
    admitted.countP (fun row =>
      field row = some value ∧ instant - 86400 < row.created ∧ row.created ≤ instant) ≤ limit := by
  have width : (day : ℝ) = 86400 := by norm_num [day]
  rw [← width]
  exact held value instant

structure Invariant (world : World) : Prop where
  active : activeCount world.runs ≤ maxActive
  stored : List.Forall₂ (Stored world.clock) world.admitted world.runs.rows
  session : QuotaHeld RunRow.sessionHash sessionLimit world.admitted
  ip : QuotaHeld RunRow.ipHash ipLimit world.admitted
  once : world.claimed.Nodup
  /-- What was claimed is stored, and never queued again. -/
  taken : ∀ ident ∈ world.claimed, ∃ row ∈ world.runs.rows, row.id = ident ∧ row.status ≠ .queued

theorem invariant_initial (clock : ℚ) : Invariant (World.initial clock) := by
  refine ⟨Nat.zero_le _, .nil, ?_, ?_, List.nodup_nil, ?_⟩
  · intro value instant
    exact Nat.zero_le _
  · intro value instant
    exact Nat.zero_le _
  · intro ident member
    cases member

/-- One admission keeps a quota whose count it has passed. -/
theorem QuotaHeld.append {clock now : ℚ} {admitted : List RunRow} {runs : Runs}
    {field : RunRow → Option String} {limit : ℕ} (held : QuotaHeld field limit admitted)
    (stored : List.Forall₂ (Stored clock) admitted runs.rows) (monotone : clock ≤ now)
    (identified : ∀ first row : RunRow, row.sessionHash = first.sessionHash →
      row.ipHash = first.ipHash → field row = field first)
    {row : RunRow} (created : row.created = now) {own : String} (named : field row = some own)
    (checked : allowanceUsed runs field own now < limit) :
    QuotaHeld field limit (admitted ++ [row]) := by
  intro value instant
  refine windowCount_append_le (held value) ?_ instant
  intro same
  rw [named, Option.some.injEq] at same
  subst same
  rw [created]
  exact lt_of_le_of_lt (recentCount_le_allowanceUsed stored monotone identified own) checked

/-- What was claimed stays claimed under a rewriting that queues no row. -/
theorem taken_update {runs : Runs} {claimed : List Uuid}
    (taken : ∀ ident ∈ claimed, ∃ row ∈ runs.rows, row.id = ident ∧ row.status ≠ .queued)
    {condition : RunRow → Prop} [DecidablePred condition] {change : RunRow → RunRow}
    (keeps : ∀ row, (change row).id = row.id)
    (left : ∀ row, condition row → row.status ≠ .queued → (change row).status ≠ .queued) :
    ∀ ident ∈ claimed, ∃ row ∈ (runs.update condition change keeps).rows,
      row.id = ident ∧ row.status ≠ .queued := by
  intro ident member
  rcases taken ident member with ⟨row, stored, key, moved⟩
  refine ⟨_, List.mem_map_of_mem stored, ?_⟩
  split
  · next selected => exact ⟨(keeps row).trans key, left row selected moved⟩
  · exact ⟨key, moved⟩

theorem claim_cases (runs : Runs) :
    claim runs = (runs, none) ∨ ∃ row ∈ runs.rows, row.status = .queued ∧
      claim runs = (runs.update (fun other => other.id = row.id)
        (fun other => { other with status := .running }) (fun _ => rfl), some row) := by
  unfold claim
  cases chosen : firstQueued runs.rows with
  | none => exact Or.inl rfl
  | some row =>
      have found := firstQueued_some chosen
      exact Or.inr ⟨row, found.1, found.2, rfl⟩

/-! ## One transaction keeps the invariant -/

theorem Invariant.admitRun {world : World} (held : Invariant world)
    {taskId policy sessionHash ipHash : String} {ident : Uuid} {now : ℚ}
    (monotone : world.clock ≤ now) :
    Invariant (world.step (.admitRun taskId policy sessionHash ipHash ident now)) := by
  have later : List.Forall₂ (Stored now) world.admitted world.runs.rows :=
    held.stored.imp fun _ _ pair => pair.later monotone
  cases outcome : Queue.admitRun world.runs taskId policy sessionHash ipHash ident now with
  | error raised =>
      simp only [World.step, outcome]
      exact ⟨held.active, later, held.session, held.ip, held.once, held.taken⟩
  | ok after =>
      simp only [World.step, outcome]
      rcases admitRun_ok outcome with ⟨room, ofSession, ofIp, rows, _⟩
      refine ⟨?_, ?_, ?_, ?_, held.once, ?_⟩
      · rw [activeCount, rows, List.countP_append, List.countP_singleton]
        rw [activeCount] at room
        split <;> omega
      · rw [rows]
        exact List.rel_append later (List.Forall₂.cons ⟨rfl, rfl, rfl, Or.inl ⟨rfl, rfl⟩⟩ .nil)
      · exact held.session.append held.stored monotone (fun _ _ same _ => same) rfl rfl ofSession
      · exact held.ip.append held.stored monotone (fun _ _ _ same => same) rfl rfl ofIp
      · intro claimed member
        rcases held.taken claimed member with ⟨row, stored, key⟩
        exact ⟨row, rows ▸ List.mem_append_left _ stored, key⟩

theorem Invariant.claim {world : World} (held : Invariant world) :
    Invariant (world.step .claim) := by
  rcases claim_cases world.runs with waiting | ⟨row, stored, queued, started⟩
  · simp only [World.step, waiting, Option.map_none, Option.toList_none, List.append_nil]
    exact held
  · simp only [World.step, started, Option.map_some, Option.toList_some]
    have own : ∀ other ∈ world.runs.rows, other.id = row.id → other = row :=
      fun other member same => world.runs.eq_of_key_eq member stored same
    refine ⟨(activeCount_update_le world.runs (fun _ => by rfl) ?_).trans held.active,
      stored_update held.stored (fun _ => by rfl) ?_, held.session, held.ip, ?_, ?_⟩
    · intro other member same _
      rw [own other member same]
      exact Or.inl queued
    · intro first other pair _
      exact pair.same rfl rfl rfl rfl rfl
    · refine List.nodup_append.mpr ⟨held.once, List.nodup_singleton _, ?_⟩
      intro ident before other single same
      rw [List.mem_singleton] at single
      rcases held.taken ident before with ⟨earlier, member, key, moved⟩
      rw [own earlier member (key.trans (same.trans single))] at moved
      exact moved queued
    · intro ident member
      rcases List.mem_append.mp member with before | new
      · exact taken_update held.taken (fun _ => by rfl)
          (fun _ _ _ waits => RunStatus.noConfusion waits) ident before
      · rw [List.mem_singleton] at new
        refine ⟨{ row with status := .running }, ?_, new.symm,
          fun waits => RunStatus.noConfusion waits⟩
        exact List.mem_map.mpr ⟨row, stored, if_pos rfl⟩

theorem Invariant.erase {world : World} (held : Invariant world) {now : ℚ}
    (monotone : world.clock ≤ now) {condition : RunRow → Prop} [DecidablePred condition]
    (old : ∀ row, condition row → row.created < now - erasureAge) :
    Invariant { world with
      runs := world.runs.update condition
        (fun row => { row with sessionHash := none, ipHash := none }) (fun _ => rfl)
      clock := now } := by
  have later : List.Forall₂ (Stored now) world.admitted world.runs.rows :=
    held.stored.imp fun _ _ pair => pair.later monotone
  refine ⟨(activeCount_update_le world.runs (fun _ => by rfl) ?_).trans held.active,
    stored_update later (fun _ => by rfl) ?_, held.session, held.ip, held.once,
    taken_update held.taken (fun _ => by rfl) ?_⟩
  · intro _ _ _ active
    exact active
  · intro _ row pair selected
    exact pair.erased (old row selected)
  · intro _ _ moved
    exact moved

/-- Rewriting statuses and results only, without a new queued or active row. -/
theorem Invariant.rewrite {world : World} (held : Invariant world) {condition : RunRow → Prop}
    [DecidablePred condition] {status : RunRow → RunStatus} {result : RunRow → JsonObject}
    (stays : ∀ row ∈ world.runs.rows, condition row →
      (status row = .queued ∨ status row = .running) → row.Active)
    (left : ∀ row, condition row → status row ≠ .queued) :
    Invariant { world with
      runs := world.runs.update condition
        (fun row => { row with status := status row, result := result row }) (fun _ => rfl) } := by
  refine ⟨(activeCount_update_le world.runs (fun _ => by rfl) stays).trans held.active,
    stored_update held.stored (fun _ => by rfl) ?_, held.session, held.ip, held.once,
    taken_update held.taken (fun _ => by rfl) ?_⟩
  · intro _ _ pair _
    exact pair.same rfl rfl rfl rfl rfl
  · intro row selected _
    exact left row selected

theorem Invariant.recover {world : World} (held : Invariant world) {charges : Charges} {now : ℚ}
    (monotone : world.clock ≤ now) : Invariant (world.step (.recover charges now)) := by
  have interrupted : Invariant { world with
      runs := world.runs.update (fun row => row.status = .running)
        (fun row => { row with status := .interrupted, result := restartedResult charges row })
        (fun _ => rfl) } := by
    apply held.rewrite
    · intro row _ running _
      exact Or.inr running
    · intro row _ waits
      cases waits
  exact interrupted.erase monotone fun row old => old

theorem Invariant.finishRun {world : World} (held : Invariant world) {ident : Uuid}
    {status : RunStatus} {result : JsonObject} (left : status ≠ .queued)
    (running : ∃ row ∈ world.runs.rows, row.id = ident ∧ row.status = .running) :
    Invariant (world.step (.finishRun ident status result)) := by
  rcases running with ⟨row, stored, key, runs⟩
  apply held.rewrite
  · intro other member same _
    rw [world.runs.eq_of_key_eq member stored (same.trans key.symm)]
    exact Or.inr runs
  · intro _ _
    exact left

theorem Invariant.step {world : World} (held : Invariant world) {operation : Operation}
    (allowed : Allowed world operation) : Invariant (world.step operation) := by
  cases operation with
  | admitRun taskId policy sessionHash ipHash ident now => exact held.admitRun allowed
  | claim => exact held.claim
  | recover charges now => exact held.recover allowed
  | expireIdentifiers now => exact held.erase allowed fun row old => old.1
  | finishRun ident status result => exact held.finishRun allowed.1 allowed.2

/-- In every reachable state at most three runs are active, every window of a
day holds at most two admissions of a session and three of an address, and no
run has been claimed twice. -/
theorem queue_quotas {clock : ℚ} {operations : List Operation}
    (allowed : Admissible World.step Allowed (World.initial clock) operations) :
    let reached := run World.step (World.initial clock) operations
    reached.runs.rows.countP (fun row => row.status = .queued ∨ row.status = .running) ≤ 3 ∧
    (∀ (hash : String) (instant : ℝ), reached.admitted.countP (fun row =>
      row.sessionHash = some hash ∧ instant - 86400 < row.created ∧ row.created ≤ instant) ≤ 2) ∧
    (∀ (hash : String) (instant : ℝ), reached.admitted.countP (fun row =>
      row.ipHash = some hash ∧ instant - 86400 < row.created ∧ row.created ≤ instant) ≤ 3) ∧
    reached.claimed.Nodup := by
  have held : Invariant (run World.step (World.initial clock) operations) :=
    run_invariant_of_admissible World.step Invariant
      (fun _ _ allowed held => held.step allowed) (invariant_initial clock) allowed
  exact ⟨held.active, held.session.within, held.ip.within, held.once⟩

/-- Two runs of one session on a day, one of them claimed, finished twice and
interrupted, and a third after its identifiers were erased. -/
def sampleRuns : List Operation := [
  .admitRun "task" "cheap_only" "session" "address" 1 0,
  .admitRun "task" "cheap_only" "session" "address" 2 10,
  .claim,
  .finishRun 1 .running [],
  .recover ∅ 20,
  .expireIdentifiers 172801,
  .admitRun "task" "cheap_only" "session" "address" 3 172802]

theorem queue_quotas_sampleRuns :
    (run World.step (World.initial 0) sampleRuns).claimed.Nodup ∧
      (run World.step (World.initial 0) sampleRuns).admitted.length = 3 := by
  have held := @queue_quotas 0 sampleRuns (by decide +kernel)
  exact ⟨held.2.2.2, by decide +kernel⟩

end Queue

end ForgeRL
