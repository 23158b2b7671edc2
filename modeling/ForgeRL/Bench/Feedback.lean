import ForgeRL.Library.Utf8
import ForgeRL.Bench.Run

namespace ForgeRL

open Library

/-!
# Feedback on visible cases

The actual output of a case is a value that the candidate has returned and
that has been decoded from JSON: a string of it may hold a lone surrogate, and
a number may be NaN.  The feedback encodes every such value, and it has no
handler for a value that does not encode.  Where they all do, the rows are
bounded one by one, and a preview loses at most the character that the limit
cuts.
-/

section Feedback

variable (floatText : ℚ → Text) (limit : ℕ)

/-- `json.dumps(actual, ensure_ascii=False)` -/
def actualText (actual : Json) : Text := Json.encode floatText Json.defaultSeparators actual

/-- A row as the feedback has to show it. -/
inductive Bounded (row : CaseRow) : JsonObject → Prop where
  | absent (missing : row.actual = none) : Bounded row (row.fields none)
  | whole (actual : Json) (present : row.actual = some actual)
      (fits : Text.size (actualText floatText actual) ≤ limit) :
      Bounded row (row.fields (some actual))
  | preview (actual : Json) (present : row.actual = some actual)
      (exceeds : limit < Text.size (actualText floatText actual)) (shown : Text)
      (decoded : shown =
        Utf8.decodeIgnore ((Utf8.encode (actualText floatText actual)).take limit))
      (initial : shown <+: actualText floatText actual) (short : Text.size shown ≤ limit) :
      Bounded row (row.fields (some .null) ++ [
        (Text.ofString "actual_preview", .str shown),
        (Text.ofString "actual_omitted", .bool true),
        (Text.ofString "actual_size_bytes", .int (Text.size (actualText floatText actual))),
        (Text.ofString "actual_note", Json.string ("Actual output omitted from model feedback; " ++
          "preview is truncated JSON text, not the complete value."))])

/-- The feedback returns, with every row bounded. -/
def FeedbackReturns (cases : List CaseRow) : Prop :=
  ∃ rows, bounded_visible_cases floatText limit cases = .ok rows ∧
    List.Forall₂ (Bounded floatText limit) cases rows

/-- The actual output of a row, if it has one, encodes. -/
def CaseRow.Encodes (row : CaseRow) : Prop :=
  ∀ actual, row.actual = some actual → actual.isStandard = true ∧ actual.isEncodable = true

variable {floatText limit}

/-- What one row comes to. -/
theorem boundedRow_cases (ascii : ∀ value, Text.isEncodable (floatText value) = true)
    (row : CaseRow) :
    (row.Encodes ∧ ∃ bounded, boundedRow floatText limit row = .ok bounded ∧
      Bounded floatText limit row bounded) ∨
    (¬ row.Encodes ∧ ∃ escape, boundedRow floatText limit row = .error escape) := by
  unfold boundedRow
  cases present : row.actual with
  | none =>
    refine .inl ⟨?_, _, rfl, .absent present⟩
    intro actual same
    rw [present] at same
    cases same
  | some actual =>
    dsimp only
    by_cases standard : actual.isStandard = true
    · rw [if_neg (not_not.mpr standard)]
      have encoded := @Json.isEncodable_encode floatText Json.defaultSeparators ascii actual
      by_cases encodable : actual.isEncodable = true
      · have valid : Text.isEncodable (actualText floatText actual) = true :=
          encoded.trans encodable
        have encodes : row.Encodes := by
          intro other same
          rw [present] at same
          cases same
          exact ⟨standard, encodable⟩
        have counted : Text.encodedLength? (Json.encode floatText Json.defaultSeparators actual) =
            some (Text.size (actualText floatText actual)) := if_pos valid
        rw [counted]
        dsimp only
        refine .inl ⟨encodes, ?_⟩
        split_ifs with fits
        · exact ⟨_, rfl, .whole actual present fits⟩
        · exact ⟨_, rfl, .preview actual present (not_le.mp fits) _
            (Utf8.decodeIgnore_take valid limit).symm (Utf8.takeBytes_prefix limit _)
            (Utf8.size_takeBytes_le limit _)⟩
      · have invalid : Text.encodedLength? (Json.encode floatText Json.defaultSeparators actual) =
            none := if_neg (fun valid => encodable (encoded.symm.trans valid))
        rw [invalid]
        exact .inr ⟨fun encodes => encodable (encodes actual present).2, _, rfl⟩
    · rw [if_pos standard]
      exact .inr ⟨fun encodes => standard (encodes actual present).1, _, rfl⟩

/-- The feedback returns exactly when every actual output encodes. -/
theorem feedback_returns_iff (ascii : ∀ value, Text.isEncodable (floatText value) = true)
    (cases : List CaseRow) :
    FeedbackReturns floatText limit cases ↔ ∀ row ∈ cases, row.Encodes := by
  induction cases with
  | nil => exact iff_of_true ⟨[], rfl, .nil⟩ (fun _ member => absurd member List.not_mem_nil)
  | cons row rest ih =>
    rw [List.forall_mem_cons, ← ih]
    rcases @boundedRow_cases floatText limit ascii row with
      ⟨encodes, bounded, same, bounds⟩ | ⟨fails, escape, same⟩
    · constructor
      · rintro ⟨rows, returned, each⟩
        rw [bounded_visible_cases, same] at returned
        cases each with
        | cons _ others =>
          cases later : bounded_visible_cases floatText limit rest with
          | error escape =>
            rw [later] at returned
            cases returned
          | ok shown =>
            rw [later] at returned
            cases returned
            exact ⟨encodes, _, later, others⟩
      · rintro ⟨_, rows, later, others⟩
        refine ⟨bounded :: rows, ?_, .cons bounds others⟩
        rw [bounded_visible_cases, same, later]
    · constructor
      · rintro ⟨rows, returned, _⟩
        rw [bounded_visible_cases, same] at returned
        cases returned
      · exact fun both => absurd both.1 fails

end Feedback

/-- A candidate that returns a lone surrogate. -/
def surrogateRow : CaseRow where
  name := Text.ofString "n"
  passed := false
  actual := some (.str [CodePoint.ofNat 0xD800])
  error := .null

theorem feedback_raises_surrogate :
    ¬ FeedbackReturns (fun _ => []) previewLimit [surrogateRow] ∧
      bounded_visible_cases (fun _ => []) previewLimit [surrogateRow] =
        .error .unicodeEncodeError := by
  have raised : bounded_visible_cases (fun _ => []) previewLimit [surrogateRow] =
      .error .unicodeEncodeError := rfl
  refine ⟨?_, raised⟩
  rintro ⟨rows, returned, _⟩
  rw [raised] at returned
  cases returned

/-- The limit cuts the second letter in two. -/
theorem feedback_returns_iff_small :
    FeedbackReturns (fun _ => Text.ofString "0.5") 4
      [⟨Text.ofString "n", false, some (.str (Text.ofString "αα")), .null⟩] := by
  apply (feedback_returns_iff (fun _ => Text.isEncodable_ofString _) _).mpr
  intro row member actual present
  rw [List.mem_singleton.mp member] at present
  cases present
  exact ⟨rfl, Text.isEncodable_ofString _⟩

end ForgeRL
