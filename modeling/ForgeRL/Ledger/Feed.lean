import ForgeRL.Ledger.Queue
import ForgeRL.Library.Paging
import ForgeRL.Library.RoundTrip
import Mathlib.Data.List.Sort

namespace ForgeRL

open Library

/-!
# The event feed of a run

`Store.add_event` numbers the events of a run and stores each as a JSON text.
A client polls `/api/runs/{id}/events` with the number it was given last,
and gets at most 250 events at a time.

The numbers that are stored are the positions in the log of the run.  This is
what makes the feed a reader of a growing log: the events after a number are
the rest of the log, and the number in the last event of a page is the
position that the page ends at.
-/

structure EventRow where
  runId : Uuid
  seq : ℕ
  payload : Text
deriving DecidableEq

def EventRow.key (row : EventRow) : Uuid × ℕ := (row.runId, row.seq)

abbrev Events := Table EventRow (Uuid × ℕ) EventRow.key

namespace Feed

def pageLimit : ℕ := 250

/-- The rows of a run. -/
def own (events : Events) (ident : Uuid) : List EventRow :=
  events.rows.filter fun row => row.runId = ident

/-- `COALESCE(MAX(seq),0)+1` -/
def nextSeq (events : Events) (ident : Uuid) : ℕ :=
  ((own events ident).map EventRow.seq).foldl max 0 + 1

/-- The event with its number. -/
def stamped (event : JsonObject) (seq : ℕ) : JsonObject :=
  Json.setField event (Text.ofString "seq") (.int seq)

/-- `ORDER BY seq` -/
def bySeq (rows : List EventRow) : List EventRow :=
  rows.insertionSort fun first second => first.seq ≤ second.seq

structure Response where
  events : List Json
  status : RunStatus
  next_seq : Json

section Payloads

variable (floatText : ℚ → Text) (depth : ℕ)

/-- `Store.add_event`.  An event that `json.dumps` refuses is not stored. -/
def addEvent (events : Events) (ident : Uuid) (event : JsonObject) : Option Events :=
  let seq := nextSeq events ident
  match Json.dumps? floatText Json.defaultSeparators depth (.obj (stamped event seq)) with
  | none => none
  | some payload => events.insert? ⟨ident, seq, payload⟩

/-- The decoded payloads of rows, unless one of them cannot be decoded. -/
def decodeAll : List EventRow → Option (List Json)
  | [] => some []
  | row :: rows =>
    match Json.loads depth row.payload, decodeAll rows with
    | some value, some values => some (value :: values)
    | _, _ => none

/-- `Store.events` -/
def eventsAfter (events : Events) (ident : Uuid) (after : ℤ) : Option (List Json) :=
  decodeAll depth
    ((bySeq ((own events ident).filter fun row => (row.seq : ℤ) > after)).take pageLimit)

/-- `values[-1]["seq"] if values else max(0, after)` -/
def nextAfter (after : ℤ) (values : List Json) : Option Json :=
  match values.getLast? with
  | none => some (.int (max 0 after))
  | some (.obj fields) => Json.field? fields "seq"
  | some _ => none

/-- The endpoint `/api/runs/{ident}/events`. -/
def respond (runs : Runs) (events : Events) (ident : Uuid) (after : ℤ) : Option Response :=
  match runs.find? ident with
  | none => none
  | some row =>
    match eventsAfter depth events ident (max 0 after) with
    | none => none
    | some values => (nextAfter after values).map fun next => ⟨values, row.status, next⟩

/-! ## Interleavings -/

inductive Operation where
  | addEvent (ident : Uuid) (event : JsonObject)
  /-- The client asks once more. -/
  | poll

/-- The stored events and the client of one run. -/
structure World where
  events : Events
  after : ℤ
  received : List Json

def World.initial : World := ⟨∅, 0, []⟩

variable (runs : Runs) (ident : Uuid)

def World.step (world : World) : Operation → World
  | .addEvent run event =>
    match addEvent floatText depth world.events run event with
    | none => world
    | some events => { world with events := events }
  | .poll =>
    match respond depth runs world.events ident world.after with
    | some ⟨values, _, .int next⟩ => {
        world with
        after := next
        received := world.received ++ values }
    | _ => world

/-- The stored sequence of a run, as `json.loads` reads it. -/
def storedSequence (events : Events) : List (Option Json) :=
  (bySeq (own events ident)).map fun row => Json.loads depth row.payload

end Payloads

/-! ## The numbers are the positions -/

theorem foldl_max_range' (count : ℕ) : (List.range' 1 count).foldl max 0 = count := by
  induction count with
  | zero => rfl
  | succ count ih =>
      rw [List.range'_concat, List.foldl_append, ih, List.foldl_cons, List.foldl_nil]
      omega

/-- The rows after a number are the rest of consecutively numbered rows. -/
theorem filter_numbered {rows : List EventRow} {start : ℕ}
    (numbered : rows.map EventRow.seq = List.range' (start + 1) rows.length) (count : ℕ) :
    rows.filter (fun row => (row.seq : ℤ) > ((start + count : ℕ) : ℤ)) = rows.drop count := by
  induction rows generalizing start count with
  | nil => rw [List.drop_nil, List.filter_nil]
  | cons row rows ih =>
      rw [List.map_cons, List.length_cons, List.range'_succ, List.cons.injEq] at numbered
      rcases numbered with ⟨first, rest⟩
      cases count with
      | zero =>
          have later := ih rest 0
          have whole : rows.filter (fun row => (row.seq : ℤ) > ((start + 0 : ℕ) : ℤ)) = rows := by
            apply List.filter_eq_self.mpr
            intro other member
            have place := @List.mem_map_of_mem _ _ _ _ EventRow.seq member
            rw [rest, List.mem_range'_1] at place
            simp only [decide_eq_true_eq]
            omega
          rw [List.filter_cons_of_pos (by simp only [decide_eq_true_eq]; omega), whole]
          rfl
      | succ count =>
          rw [List.filter_cons_of_neg (by simp only [decide_eq_true_eq]; omega), List.drop_succ_cons]
          have shifted : start + (count + 1) = start + 1 + count := by omega
          rw [shifted]
          exact ih rest count

section Numbered

variable (depth : ℕ)

/-- The rows of each run are numbered from one without gaps, and every payload
carries the number of its row. -/
structure Numbered (events : Events) : Prop where
  positions : ∀ ident, (own events ident).map EventRow.seq =
    List.range' 1 (own events ident).length
  carried : ∀ row ∈ events.rows, ∃ fields, Json.loads depth row.payload = some (.obj fields) ∧
    Json.field? fields "seq" = some (.int row.seq)

variable {depth}

theorem numbered_empty : Numbered depth (∅ : Events) := by
  refine ⟨fun _ => rfl, ?_⟩
  intro row member
  cases member

theorem Numbered.nextSeq_eq {events : Events} (numbered : Numbered depth events) (ident : Uuid) :
    nextSeq events ident = (own events ident).length + 1 := by
  rw [nextSeq, numbered.positions, foldl_max_range']

theorem Numbered.bySeq_eq {events : Events} (numbered : Numbered depth events) (ident : Uuid)
    {rows : List EventRow} (part : rows.Sublist (own events ident)) : bySeq rows = rows := by
  apply List.Pairwise.insertionSort_eq
  have sorted : ((own events ident).map EventRow.seq).Pairwise (· ≤ ·) := by
    rw [numbered.positions]
    exact List.pairwise_le_range'
  exact (List.pairwise_map.mp sorted).sublist part

/-! ## An event that is added -/

variable {floatText : ℚ → Text}

theorem addEvent_some {events after : Events} {ident : Uuid} {event : JsonObject}
    (added : addEvent floatText depth events ident event = some after) :
    ∃ payload, Json.dumps? floatText Json.defaultSeparators depth
        (.obj (stamped event (nextSeq events ident))) = some payload ∧
      after.rows = events.rows ++ [⟨ident, nextSeq events ident, payload⟩] := by
  unfold addEvent at added
  simp only at added
  split at added
  · cases added
  · next payload written => exact ⟨payload, written, (Table.insert?_eq_some added).1⟩

/-- The floats of an event are read back, also after it has been stamped. -/
theorem floatsRead_setField {fields : JsonObject} {name : Text} {value : ℤ}
    (read : Json.FieldsFloatsRead floatText fields) :
    Json.FieldsFloatsRead floatText (Json.setField fields name (.int value)) := by
  have mapped (fields : JsonObject) (read : Json.FieldsFloatsRead floatText fields) :
      Json.FieldsFloatsRead floatText
        (fields.map fun entry => if entry.1 = name then (name, .int value) else entry) := by
    induction fields with
    | nil => trivial
    | cons entry fields ih =>
        rw [List.map_cons]
        split_ifs
        · exact ⟨trivial, ih read.2⟩
        · exact ⟨read.1, ih read.2⟩
  have appended (fields : JsonObject) (read : Json.FieldsFloatsRead floatText fields) :
      Json.FieldsFloatsRead floatText (fields ++ [(name, .int value)]) := by
    induction fields with
    | nil => exact ⟨trivial, trivial⟩
    | cons entry fields ih => exact ⟨read.1, ih read.2⟩
  unfold Json.setField
  split_ifs
  · exact mapped fields read
  · exact appended fields read

theorem setField_entries (fields : JsonObject) (name : Text) (value : Json) :
    name ∈ (Json.setField fields name value).map Prod.fst ∧
      ∀ entry ∈ Json.setField fields name value, entry.1 = name → entry.2 = value := by
  unfold Json.setField
  split_ifs with present
  · constructor
    · rcases List.any_eq_true.mp present with ⟨entry, member, same⟩
      refine List.mem_map.mpr ⟨(name, value), List.mem_map.mpr ⟨entry, member, ?_⟩, rfl⟩
      rw [if_pos (of_decide_eq_true same)]
    · intro entry member same
      rcases List.mem_map.mp member with ⟨old, _, rfl⟩
      split_ifs at same ⊢ with first
      · rfl
      · exact absurd same first
  · constructor
    · rw [List.map_append]
      exact List.mem_append_right _ List.mem_cons_self
    · intro entry member same
      rcases List.mem_append.mp member with old | new
      · exact absurd (List.any_eq_true.mpr ⟨entry, old, decide_eq_true same⟩) present
      · rw [List.mem_singleton.mp new]

theorem own_append {events after : Events} {row : EventRow} (rows : after.rows = events.rows ++ [row])
    (ident : Uuid) :
    own after ident = own events ident ++ if row.runId = ident then [row] else [] := by
  rw [own, rows, List.filter_append, ← own]
  by_cases same : row.runId = ident
  · simp [same]
  · simp [same]

theorem Numbered.addEvent {events after : Events} (numbered : Numbered depth events)
    {ident : Uuid} {event : JsonObject} (read : Json.FieldsFloatsRead floatText event)
    (added : Feed.addEvent floatText depth events ident event = some after) :
    Numbered depth after := by
  rcases addEvent_some added with ⟨payload, written, rows⟩
  refine ⟨?_, ?_⟩
  · intro other
    rw [own_append rows]
    by_cases same : ident = other
    · subst same
      rw [if_pos rfl, List.map_append, List.length_append, List.length_singleton, List.range'_concat,
        numbered.positions, numbered.nextSeq_eq]
      simp [Nat.add_comm]
    · rw [if_neg same, List.append_nil]
      exact numbered.positions other
  · intro row member
    rw [rows, List.mem_append, List.mem_singleton] at member
    rcases member with before | rfl
    · exact numbered.carried row before
    · have entries := setField_entries event (Text.ofString "seq") (.int (nextSeq events ident))
      have stampedRead : Json.FloatsRead floatText
          (.obj (stamped event (nextSeq events ident))) := floatsRead_setField read
      refine ⟨_, Json.loads_of_dumps? Json.defaultSeparators_reads stampedRead written, ?_⟩
      exact Json.field?_joinedFields (by decide) entries.1 entries.2 []

/-! ## A page that is asked for -/

theorem decodeAll_of_carried {rows : List EventRow}
    (carried : ∀ row ∈ rows, ∃ fields, Json.loads depth row.payload = some (.obj fields)) :
    ∃ values, decodeAll depth rows = some values ∧
      values.map some = rows.map fun row => Json.loads depth row.payload := by
  induction rows with
  | nil => exact ⟨[], rfl, rfl⟩
  | cons row rows ih =>
      rcases carried row List.mem_cons_self with ⟨fields, decoded⟩
      rcases ih (fun other member => carried other (List.mem_cons_of_mem _ member)) with
        ⟨values, rest, same⟩
      refine ⟨.obj fields :: values, ?_, ?_⟩
      · rw [decodeAll, decoded, rest]
      · rw [List.map_cons, List.map_cons, same, decoded]

theorem storedSequence_eq {events : Events} (numbered : Numbered depth events) (ident : Uuid) :
    storedSequence depth ident events =
      (own events ident).map fun row => Json.loads depth row.payload := by
  rw [storedSequence, numbered.bySeq_eq ident (List.Sublist.refl _)]

/-- The number of the last event of a page is the position that the page ends
at. -/
theorem nextAfter_of_numbered {rows : List EventRow} {values : List Json} {cursor : ℕ}
    (carried : ∀ row ∈ rows, ∃ fields, Json.loads depth row.payload = some (.obj fields) ∧
      Json.field? fields "seq" = some (.int row.seq))
    (same : values.map some = rows.map fun row => Json.loads depth row.payload)
    (placed : rows.map EventRow.seq = List.range' (cursor + 1) rows.length) :
    nextAfter cursor values = some (.int ((cursor + values.length : ℕ) : ℤ)) := by
  have positive : max 0 (cursor : ℤ) = (cursor : ℤ) := max_eq_right (Int.natCast_nonneg cursor)
  have lengths : values.length = rows.length := by
    simpa using congrArg List.length same
  have ends : (values.map some).getLast? = values.getLast?.map some := List.getLast?_map
  unfold nextAfter
  rw [same] at ends
  rcases List.eq_nil_or_concat rows with rfl | ⟨front, last, rfl⟩
  · rw [List.length_nil] at lengths
    rw [List.eq_nil_of_length_eq_zero lengths]
    simp only [List.getLast?_nil, positive, List.length_nil, Nat.add_zero]
  · rcases carried last (by simp) with ⟨fields, decoded, number⟩
    have final : values.getLast? = some (.obj fields) := by
      rw [List.concat_eq_append, List.map_append, List.map_singleton, List.getLast?_concat,
        decoded] at ends
      rcases Option.map_eq_some_iff.mp ends.symm with ⟨value, held, boxed⟩
      rw [held, Option.some.inj boxed]
    have position : last.seq = cursor + values.length := by
      have whole := congrArg List.getLast? placed
      rw [List.getLast?_map, List.concat_eq_append, List.getLast?_concat, Option.map_some,
        List.getLast?_range'] at whole
      rw [lengths, List.concat_eq_append]
      simp at whole ⊢
      omega
    simp only [final, number, position]

/-- The answer for a cursor inside the log is the page at the cursor, and the
number that comes with it is the end of the page. -/
theorem respond_page {events : Events} (numbered : Numbered depth events) {runs : Runs}
    {ident : Uuid} {row : RunRow} (stored : runs.find? ident = some row) (cursor : ℕ) :
    ∃ values, respond depth runs events ident cursor =
        some ⟨values, row.status, .int (cursor + values.length : ℕ)⟩ ∧
      values.map some = page pageLimit (storedSequence depth ident events) cursor := by
  have positive : max 0 (cursor : ℤ) = (cursor : ℤ) := max_eq_right (Int.natCast_nonneg cursor)
  have chosen : (own events ident).filter (fun other => (other.seq : ℤ) > (cursor : ℤ)) =
      (own events ident).drop cursor := by
    have rest := @filter_numbered (own events ident) 0 (numbered.positions ident) cursor
    rwa [Nat.zero_add] at rest
  have sorted : bySeq ((own events ident).drop cursor) = (own events ident).drop cursor :=
    numbered.bySeq_eq ident (List.drop_sublist _ _)
  have carried : ∀ other ∈ ((own events ident).drop cursor).take pageLimit,
      ∃ fields, Json.loads depth other.payload = some (.obj fields) ∧
        Json.field? fields "seq" = some (.int other.seq) := by
    intro other member
    have inside := List.mem_of_mem_drop (List.mem_of_mem_take member)
    exact numbered.carried other (List.mem_of_mem_filter inside)
  rcases decodeAll_of_carried (fun other member => (carried other member).imp fun _ both => both.1)
    with ⟨values, decoded, same⟩
  have placed : (((own events ident).drop cursor).take pageLimit).map EventRow.seq =
      List.range' (cursor + 1) (((own events ident).drop cursor).take pageLimit).length := by
    rw [List.map_take, List.map_drop, numbered.positions, List.drop_range', List.length_take,
      List.length_drop, Nat.mul_one, Nat.add_comm 1 cursor]
    rcases le_total ((own events ident).length - cursor) pageLimit with short | long
    · rw [List.take_range'_of_length_le short, Nat.min_eq_right short]
    · rw [List.take_range'_of_length_ge long, Nat.min_eq_left long]
  have next : nextAfter cursor values = some (.int ((cursor + values.length : ℕ) : ℤ)) :=
    nextAfter_of_numbered carried same placed
  refine ⟨values, ?_, ?_⟩
  · unfold respond eventsAfter
    rw [stored]
    simp only [positive, chosen, sorted, decoded, next, Option.map_some]
  · rw [storedSequence_eq numbered, page, ← List.map_drop, ← List.map_take, same]

/-! ## The feed reads the log of the run -/

/-- The world of a run as a log and its reader. -/
def World.reader (depth : ℕ) (ident : Uuid) (world : World) : Reader (Option Json) where
  log := storedSequence depth ident world.events
  cursor := world.after.toNat
  received := world.received.map some

structure Invariant (depth : ℕ) (ident : Uuid) (world : World) : Prop where
  numbered : Numbered depth world.events
  after : 0 ≤ world.after
  faithful : (world.reader depth ident).Faithful

variable {ident : Uuid}

theorem invariant_initial : Invariant depth ident World.initial := by
  refine ⟨numbered_empty, Int.le_refl 0, ?_⟩
  exact Reader.faithful_initial

/-- Adding an event appends to the log of its own run and to no other. -/
theorem storedSequence_addEvent {events after : Events} (numbered : Numbered depth events)
    {run : Uuid} {event : JsonObject} (read : Json.FieldsFloatsRead floatText event)
    (added : addEvent floatText depth events run event = some after) (ident : Uuid) :
    storedSequence depth ident after = storedSequence depth ident events ∨
      ∃ entry, storedSequence depth ident after = storedSequence depth ident events ++ [entry] := by
  have later := numbered.addEvent read added
  rcases addEvent_some added with ⟨payload, _, rows⟩
  rw [storedSequence_eq later, storedSequence_eq numbered, own_append rows]
  split_ifs
  · exact Or.inr ⟨_, List.map_append⟩
  · exact Or.inl (by rw [List.append_nil])

/-- A poll is a poll of the reader. -/
theorem step_poll (floatText : ℚ → Text) {world : World} (held : Invariant depth ident world)
    {runs : Runs} {row : RunRow} (stored : runs.find? ident = some row) :
    (world.step floatText depth runs ident .poll).events = world.events ∧
      0 ≤ (world.step floatText depth runs ident .poll).after ∧
      (world.step floatText depth runs ident .poll).reader depth ident =
        (world.reader depth ident).step pageLimit .poll := by
  rcases respond_page held.numbered stored world.after.toNat with ⟨values, answer, same⟩
  rw [Int.toNat_of_nonneg held.after] at answer
  have lengths : values.length =
      (page pageLimit (storedSequence depth ident world.events) world.after.toNat).length := by
    rw [← same, List.length_map]
  simp only [World.step, answer, World.reader, Reader.step]
  refine ⟨trivial, Int.natCast_nonneg _, ?_⟩
  rw [← lengths, ← same, List.map_append, Int.toNat_natCast]

theorem Invariant.step {world : World} (held : Invariant depth ident world)
    {runs : Runs} {row : RunRow} (stored : runs.find? ident = some row) {operation : Operation}
    (read : ∀ run event, operation = .addEvent run event → Json.FieldsFloatsRead floatText event) :
    Invariant depth ident (world.step floatText depth runs ident operation) := by
  cases operation with
  | addEvent run event =>
      cases added : addEvent floatText depth world.events run event with
      | none =>
          simp only [World.step, added]
          exact held
      | some events =>
          simp only [World.step, added]
          refine ⟨held.numbered.addEvent (read run event rfl) added, held.after, ?_⟩
          rcases storedSequence_addEvent held.numbered (read run event rfl) added ident with
            same | ⟨entry, longer⟩
          · have kept := held.faithful
            rw [World.reader] at kept ⊢
            rwa [same]
          · have kept := Reader.step_faithful pageLimit held.faithful (.append entry)
            rw [World.reader] at kept ⊢
            rwa [longer]
  | poll =>
      rcases step_poll floatText held stored with ⟨events, after, polled⟩
      refine ⟨events ▸ held.numbered, after, ?_⟩
      rw [polled]
      exact Reader.step_faithful pageLimit held.faithful .poll

theorem run_invariant_feed {operations : List Operation} {runs : Runs} {row : RunRow}
    (stored : runs.find? ident = some row)
    (read : ∀ operation ∈ operations, ∀ run event, operation = .addEvent run event →
      Json.FieldsFloatsRead floatText event) :
    Invariant depth ident
      (run (World.step floatText depth runs ident) World.initial operations) :=
  run_invariant_of_admissible _ (Invariant depth ident)
    (fun _ _ read held => held.step stored read) invariant_initial
    (Admissible.of_forall _ read _)

end Numbered

/-- Polls that make room for all stored events receive all of them. -/
theorem feed_drained {floatText : ℚ → Text} {depth : ℕ} {runs : Runs} {ident : Uuid} {row : RunRow}
    (stored : runs.find? ident = some row) {world : World} (held : Invariant depth ident world)
    (rounds : ℕ)
    (enough : (storedSequence depth ident world.events).length ≤ pageLimit * rounds) :
    (run (World.step floatText depth runs ident) world (List.replicate rounds .poll)).received.map
      some = storedSequence depth ident world.events := by
  have polls (world : World) (held : Invariant depth ident world) (rounds : ℕ) :
      (run (World.step floatText depth runs ident) world (List.replicate rounds .poll)).reader
          depth ident =
        run (Reader.step pageLimit) (world.reader depth ident) (List.replicate rounds .poll) := by
    induction rounds generalizing world with
    | zero => rfl
    | succ rounds ih =>
        have later := ih (world.step floatText depth runs ident .poll)
          (held.step stored fun _ _ impossible => by cases impossible)
        rw [(step_poll floatText held stored).2.2] at later
        exact later
  have drained := held.faithful.polls pageLimit rounds (enough.trans (Nat.le_add_left _ _))
  rw [← polls world held rounds] at drained
  exact drained

/-- The stored numbers are one to the number of events; what the client has
received is always a prefix of the stored sequence; every poll is answered, an
empty answer comes only when the whole sequence has been received, and polls
alone come to it. -/
theorem feed_faithful {floatText : ℚ → Text} {depth : ℕ} {runs : Runs} {ident : Uuid} {row : RunRow}
    (stored : runs.find? ident = some row) {operations : List Operation}
    (read : ∀ operation ∈ operations, ∀ run event, operation = .addEvent run event →
      Json.FieldsFloatsRead floatText event) :
    let reached := run (World.step floatText depth runs ident) World.initial operations
    (bySeq (own reached.events ident)).map EventRow.seq =
        List.range' 1 (own reached.events ident).length ∧
      reached.received.map some <+: storedSequence depth ident reached.events ∧
      ∃ response, respond depth runs reached.events ident reached.after = some response ∧
        (response.events = [] →
          reached.received.map some = storedSequence depth ident reached.events) ∧
        ∀ rounds, (storedSequence depth ident reached.events).length ≤ pageLimit * rounds →
          (run (World.step floatText depth runs ident) reached
            (List.replicate rounds .poll)).received.map some =
              storedSequence depth ident reached.events := by
  intro reached
  have held : Invariant depth ident reached := run_invariant_feed stored read
  refine ⟨?_, held.faithful.isPrefix, ?_⟩
  · rw [held.numbered.bySeq_eq ident (List.Sublist.refl _)]
    exact held.numbered.positions ident
  · rcases respond_page held.numbered stored reached.after.toNat with ⟨values, answer, same⟩
    rw [Int.toNat_of_nonneg held.after] at answer
    refine ⟨_, answer, fun empty => ?_, feed_drained stored held⟩
    have nothing : values = [] := empty
    rw [nothing, List.map_nil] at same
    exact held.faithful.caughtUp pageLimit (by decide) same.symm

/-- One run, as it was admitted. -/
def sampleRuns : Runs :=
  ⟨[Queue.admittedRow "task" "cheap_only" "session" "address" 1 0], List.nodup_singleton _⟩

/-- Two events with a poll between them, and an event of another run. -/
def sampleFeed : List Operation := [
  .addEvent 1 [(Text.ofString "kind", Json.string "created")],
  .poll,
  .addEvent 2 [],
  .addEvent 1 [(Text.ofString "seq", .null)]]

theorem feed_faithful_sampleFeed :
    let reached := run (World.step (fun _ => []) 100 sampleRuns 1) World.initial sampleFeed
    reached.received.length = 1 ∧ (own reached.events 1).length = 2 ∧
      reached.received.map some <+: storedSequence 100 1 reached.events := by
  have stored : sampleRuns.find? 1 =
      some (Queue.admittedRow "task" "cheap_only" "session" "address" 1 0) := rfl
  have faithful := @feed_faithful (fun _ => []) 100 sampleRuns 1 _ stored sampleFeed (by
    intro operation member run event same
    subst same
    simp only [sampleFeed, List.mem_cons, Operation.addEvent.injEq, reduceCtorEq, List.not_mem_nil,
      or_false, false_or] at member
    rcases member with ⟨_, rfl⟩ | ⟨_, rfl⟩ | ⟨_, rfl⟩
    · exact ⟨trivial, trivial⟩
    · trivial
    · exact ⟨trivial, trivial⟩)
  exact ⟨by decide +kernel, by decide +kernel, faithful.2.1⟩

end Feed

end ForgeRL
