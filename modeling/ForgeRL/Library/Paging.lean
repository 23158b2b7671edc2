import ForgeRL.Library.Machine

/-!
# Reading a growing log page by page

One side appends entries to a log.  The other side asks for the entries after
its cursor, gets at most one page of them, and moves the cursor by what it got.
In any order of the two, what has been received is the part of the log before
the cursor; it is the whole log as soon as a page comes back empty.
-/

namespace Library

universe u

/-- The entries that come back for a cursor. -/
def page {α : Type u} (limit : ℕ) (log : List α) (cursor : ℕ) : List α :=
  (log.drop cursor).take limit

/-- A log and one reader of it. -/
structure Reader (α : Type u) where
  log : List α
  cursor : ℕ
  received : List α

/-- What happens to a log and to its reader. -/
inductive Reading (α : Type u) where
  | append (entry : α)
  | poll

namespace Reader

variable {α : Type u} (limit : ℕ)

def initial : Reader α := ⟨[], 0, []⟩

def step (reader : Reader α) : Reading α → Reader α
  | .append entry => { reader with log := reader.log ++ [entry] }
  | .poll => {
      reader with
      cursor := reader.cursor + (page limit reader.log reader.cursor).length
      received := reader.received ++ page limit reader.log reader.cursor }

/-- What was received is what stands before the cursor. -/
structure Faithful (reader : Reader α) : Prop where
  within : reader.cursor ≤ reader.log.length
  received : reader.received = reader.log.take reader.cursor

theorem faithful_initial : (initial : Reader α).Faithful := ⟨Nat.le_refl 0, rfl⟩

theorem take_page (log : List α) (cursor : ℕ) :
    log.take (cursor + (page limit log cursor).length) =
      log.take cursor ++ page limit log cursor := by
  rw [List.take_add, page, List.length_take, ← List.take_eq_take_min]

theorem step_faithful {reader : Reader α} (faithful : reader.Faithful) (reading : Reading α) :
    (reader.step limit reading).Faithful := by
  cases reading with
  | append entry =>
      refine ⟨?_, ?_⟩
      · have within := faithful.within
        simp only [Reader.step, List.length_append, List.length_singleton]
        omega
      · simp only [Reader.step]
        rw [faithful.received, List.take_append_of_le_length faithful.within]
  | poll =>
      refine ⟨?_, ?_⟩
      · have within := faithful.within
        simp only [Reader.step, page, List.length_take, List.length_drop]
        omega
      · simp only [Reader.step]
        rw [faithful.received, take_page]

theorem Faithful.isPrefix {reader : Reader α} (faithful : reader.Faithful) :
    reader.received <+: reader.log := by
  rw [faithful.received]
  exact List.take_prefix _ _

/-- An empty page means that everything has been received. -/
theorem Faithful.caughtUp {reader : Reader α} (faithful : reader.Faithful) (room : 0 < limit)
    (empty : page limit reader.log reader.cursor = []) : reader.received = reader.log := by
  rw [page, List.take_eq_nil_iff, List.drop_eq_nil_iff] at empty
  rw [faithful.received]
  exact List.take_of_length_le (by omega)

/-- Enough polls without an append receive everything. -/
theorem Faithful.polls {reader : Reader α} (faithful : reader.Faithful) (rounds : ℕ)
    (enough : reader.log.length ≤ reader.cursor + limit * rounds) :
    (run (Reader.step limit) reader (List.replicate rounds .poll)).received = reader.log := by
  induction rounds generalizing reader with
  | zero =>
      rw [List.replicate_zero, run, List.foldl_nil, faithful.received]
      exact List.take_of_length_le enough
  | succ rounds ih =>
      rw [List.replicate_succ]
      apply ih (step_faithful limit faithful .poll)
      have within := faithful.within
      simp only [Reader.step, page, List.length_take, List.length_drop]
      rw [Nat.mul_succ] at enough
      omega

end Reader

end Library
