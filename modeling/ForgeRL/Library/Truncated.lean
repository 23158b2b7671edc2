import ForgeRL.Library.Joined

namespace Library

/-!
# Texts of objects that are cut off

No beginning of the text of an object is the text of a value, unless only blanks
are missing.  So a reader of lines can tell a line that was cut off from one that
was not, as long as every line holds an object.
-/

namespace Json

/-! ## The tokens of a beginning -/

section Beginnings

variable {lexer : Lexer} {first rest : Text} {before whole : List Token}

theorem exists_fed {point : CodePoint} {read : List Token}
    (cut : tokens lexer (point :: rest) = some read) :
    ∃ ended next later, lexer.feed point = some (ended, next) ∧
      tokens next rest = some later ∧ read = ended ++ later := by
  cases fed : lexer.feed point with
  | none =>
    cases lexer <;> rw [tokens, fed] at cut <;> cases cut
  | some step =>
    rw [tokens_cons fed] at cut
    rcases Option.map_eq_some_iff.mp cut with ⟨later, others, rfl⟩
    exact ⟨step.1, step.2, later, rfl, others, rfl⟩

/-- What is left after the tokens of a beginning is cut by itself, or the last of
these tokens is a word that may go on. -/
theorem tokens_beginning (began : tokens lexer first = some before)
    (cut : tokens lexer (first ++ rest) = some whole) :
    (∃ front value, before = front ++ [.scalar value]) ∨
      ∃ later, whole = before ++ later ∧ tokens .between rest = some later := by
  induction first generalizing lexer before whole with
  | nil =>
    cases lexer with
    | between =>
      cases began
      exact .inr ⟨whole, rfl, cut⟩
    | letters read =>
      rcases Option.map_eq_some_iff.mp began with ⟨value, _, rfl⟩
      exact .inl ⟨[], value, rfl⟩
    | quoted read high => cases began
    | escaped read high => cases began
    | unicode read high digits => cases began
  | cons point first ih =>
    rcases exists_fed began with ⟨ended, next, early, fed, others, rfl⟩
    rcases exists_fed cut with ⟨also, same, late, again, further, rfl⟩
    cases fed.symm.trans again
    rcases ih others further with ⟨front, value, rfl⟩ | ⟨later, rfl, left⟩
    · exact .inl ⟨ended ++ front, value, (List.append_assoc ..).symm⟩
    · exact .inr ⟨later, (List.append_assoc ..).symm, left⟩

/-- Only a blank leaves the lexer between two tokens without one. -/
theorem silent_feed {point : CodePoint} (fed : lexer.feed point = some ([], .between)) :
    lexer = .between ∧ isBlank point = true := by
  have begun {ended : List Token} (step : beginToken ended point = ([], .between)) :
      ended = [] ∧ isBlank point = true := by
    unfold beginToken at step
    split_ifs at step with blank quote
    · exact ⟨(Prod.mk.inj step).1, blank⟩
    · cases (Prod.mk.inj step).2
    · split at step
      · cases List.append_eq_nil_iff.mp (Prod.mk.inj step).1 |>.2
      · cases (Prod.mk.inj step).2
  cases lexer with
  | between => exact ⟨rfl, (begun (Option.some.inj fed)).2⟩
  | letters read =>
    unfold Lexer.feed at fed
    dsimp only at fed
    split_ifs at fed
    · rcases Option.map_eq_some_iff.mp fed with ⟨value, _, step⟩
      cases (begun step).1
    · cases (Prod.mk.inj (Option.some.inj fed)).2
  | quoted read high =>
    unfold Lexer.feed at fed
    dsimp only at fed
    split_ifs at fed
    · cases (Prod.mk.inj (Option.some.inj fed)).1
    · cases (Prod.mk.inj (Option.some.inj fed)).2
    · cases (Prod.mk.inj (Option.some.inj fed)).2
  | escaped read high =>
    unfold Lexer.feed at fed
    dsimp only at fed
    split_ifs at fed
    · cases (Prod.mk.inj (Option.some.inj fed)).2
    · rcases Option.map_eq_some_iff.mp fed with ⟨letter, _, step⟩
      cases (Prod.mk.inj step).2
  | unicode read high digits =>
    unfold Lexer.feed appendUnit at fed
    dsimp only at fed
    split at fed
    · cases fed
    · split at fed
      · split at fed
        · split_ifs at fed <;> cases (Prod.mk.inj (Option.some.inj fed)).2
        · cases (Prod.mk.inj (Option.some.inj fed)).2
      · cases (Prod.mk.inj (Option.some.inj fed)).2

/-- A text without tokens is blank. -/
theorem blank_of_tokens (none_ : tokens lexer rest = some []) :
    lexer = .between ∧ ∀ point ∈ rest, isBlank point = true := by
  induction rest generalizing lexer with
  | nil =>
    cases lexer with
    | between => exact ⟨rfl, fun _ impossible => absurd impossible List.not_mem_nil⟩
    | letters read =>
      rcases Option.map_eq_some_iff.mp none_ with ⟨value, _, impossible⟩
      cases impossible
    | quoted read high => cases none_
    | escaped read high => cases none_
    | unicode read high digits => cases none_
  | cons point rest ih =>
    rcases exists_fed none_ with ⟨ended, next, later, fed, others, nothing⟩
    rcases List.append_eq_nil_iff.mp nothing.symm with ⟨rfl, rfl⟩
    rcases ih others with ⟨rfl, blank⟩
    rcases silent_feed fed with ⟨rfl, here⟩
    refine ⟨rfl, ?_⟩
    rw [List.forall_mem_cons]
    exact ⟨here, blank⟩

end Beginnings

/-! ## Open containers -/

/-- The parser is inside of some container. -/
def Parser.Open : Parser → Prop
  | .value stack => stack ≠ []
  | .done _ => False
  | _ => True

section Nested

variable {depth : ℕ} {parser next : Parser} {token : Token} {rest more : List Token}
  {value other : Json}

theorem open_deliver {stack : List Frame} (inside : stack ≠ []) : (deliver value stack).Open := by
  cases stack with
  | nil => exact absurd rfl inside
  | cons frame stack => cases frame <;> trivial

theorem open_or_done (stack : List Frame) :
    (deliver value stack).Open ∨ ∃ held, deliver value stack = .done held := by
  cases stack with
  | nil => exact .inr ⟨value, rfl⟩
  | cons frame stack => exact .inl (open_deliver (List.cons_ne_nil frame stack))

theorem open_beginValue {stack : List Frame} (inside : stack ≠ [])
    (begun : beginValue depth stack token = some next) : next.Open := by
  cases token with
  | text content =>
    cases begun
    exact open_deliver inside
  | scalar value =>
    cases begun
    exact open_deliver inside
  | openArray =>
    unfold beginValue at begun
    dsimp only at begun
    split_ifs at begun
    cases begun
    trivial
  | openObject =>
    unfold beginValue at begun
    dsimp only at begun
    split_ifs at begun
    cases begun
    trivial
  | closeArray => cases begun
  | closeObject => cases begun
  | comma => cases begun
  | colon => cases begun

/-- Only the end of a container ends the value. -/
theorem Parser.Open.feed (opened : parser.Open) (fed : parser.feed depth token = some next) :
    next.Open ∨ ∃ held, next = .done held := by
  cases parser with
  | value stack => exact .inl (open_beginValue opened fed)
  | done value => cases opened
  | first stack =>
    cases token with
    | closeArray =>
      cases fed
      exact open_or_done stack
    | _ =>
      simp only [Parser.feed] at fed
      exact .inl (open_beginValue (List.cons_ne_nil _ stack) fed)
  | afterItem stack items =>
    cases token with
    | comma =>
      cases fed
      exact .inl (List.cons_ne_nil _ stack)
    | closeArray =>
      cases fed
      exact open_or_done stack
    | _ => cases fed
  | name stack fields closable =>
    cases token with
    | text label =>
      cases closable <;> cases fed <;> exact .inl trivial
    | closeObject =>
      cases closable with
      | false => cases fed
      | true =>
        cases fed
        exact open_or_done stack
    | _ => cases closable <;> cases fed
  | afterName stack fields label =>
    cases token with
    | colon =>
      cases fed
      exact .inl (List.cons_ne_nil _ stack)
    | _ => cases fed
  | afterField stack fields =>
    cases token with
    | comma =>
      cases fed
      exact .inl trivial
    | closeObject =>
      cases fed
      exact open_or_done stack
    | _ => cases fed

theorem Parser.Open.scalar (opened : parser.Open)
    (fed : parser.feed depth (.scalar value) = some next) : next.Open := by
  cases parser with
  | value stack =>
    simp only [Parser.feed] at fed
    exact open_beginValue opened fed
  | done value => cases opened
  | first stack =>
    simp only [Parser.feed] at fed
    exact open_beginValue (List.cons_ne_nil _ stack) fed
  | afterItem stack items => cases fed
  | name stack fields closable => cases closable <;> cases fed
  | afterName stack fields label => cases fed
  | afterField stack fields => cases fed

theorem exists_parser_fed (read : parse depth parser (token :: rest) = some value) :
    ∃ next, parser.feed depth token = some next ∧ parse depth next rest = some value := by
  cases fed : parser.feed depth token with
  | none =>
    cases parser <;> rw [parse, fed] at read <;> cases read
  | some next =>
    rw [parse_cons depth fed] at read
    exact ⟨next, rfl, read⟩

theorem parse_done {held : Json} (read : parse depth (.done held) rest = some value) :
    rest = [] := by
  cases rest with
  | nil => rfl
  | cons token rest =>
    rcases exists_parser_fed read with ⟨next, fed, _⟩
    cases fed

/-- A value in an open container does not end with a word. -/
theorem Parser.Open.parse_scalar (opened : parser.Open) :
    parse depth parser (rest ++ [.scalar value]) = none := by
  cases read : parse depth parser (rest ++ [.scalar value]) with
  | none => rfl
  | some held =>
    induction rest generalizing parser with
    | nil =>
      rcases exists_parser_fed read with ⟨next, fed, ended⟩
      have inside := opened.scalar fed
      cases next with
      | done value => cases inside
      | _ => cases ended
    | cons token rest ih =>
      rcases exists_parser_fed read with ⟨next, fed, later⟩
      rcases opened.feed fed with inside | ⟨ended, rfl⟩
      · exact ih inside later
      · cases List.append_eq_nil_iff.mp (parse_done later) |>.2

/-- Nothing can stand after the tokens of a value. -/
theorem parse_append (first : parse depth parser rest = some value)
    (whole : parse depth parser (rest ++ more) = some other) : more = [] := by
  induction rest generalizing parser with
  | nil =>
    cases parser with
    | done held => exact parse_done whole
    | _ => cases first
  | cons token rest ih =>
    rcases exists_parser_fed first with ⟨next, fed, early⟩
    rcases exists_parser_fed whole with ⟨same, again, late⟩
    cases fed.symm.trans again
    exact ih early late

end Nested

/-! ## Beginnings of objects -/

section Objects

variable {depth : ℕ} {first rest : Text} {value other : Json}

/-- An object and one of its beginnings are both read only if the rest is blank. -/
theorem blank_of_loads (opens : first.head? = some (CodePoint.ofNat 0x7B))
    (read : loads depth first = some value) (whole : loads depth (first ++ rest) = some other) :
    ∀ point ∈ rest, isBlank point = true := by
  cases first with
  | nil => cases opens
  | cons point first =>
    cases opens
    have parsed {text : Text} {held : Json}
        (loaded : loads depth (CodePoint.ofNat 0x7B :: text) = some held) :
        ∃ found, tokens .between text = some found ∧
          parse depth (.value []) (.openObject :: found) = some held := by
      have unmarked : ¬ (CodePoint.ofNat 0x7B :: text).head? = some (CodePoint.ofNat 0xFEFF) := by
        rw [List.head?_cons]
        decide
      rw [loads, if_neg unmarked] at loaded
      rcases Option.bind_eq_some_iff.mp loaded with ⟨found, cut, built⟩
      rw [tokens_punctuation rfl] at cut
      rcases Option.map_eq_some_iff.mp cut with ⟨later, others, rfl⟩
      exact ⟨later, others, built⟩
    rcases parsed read with ⟨before, began, built⟩
    rcases parsed whole with ⟨all, cut, also⟩
    rcases tokens_beginning began cut with ⟨front, scalar, rfl⟩ | ⟨later, rfl, left⟩
    · rcases exists_parser_fed built with ⟨next, fed, later⟩
      have inside : next.Open := by
        unfold Parser.feed beginValue at fed
        dsimp only at fed
        split_ifs at fed
        cases fed
        trivial
      rw [inside.parse_scalar] at later
      cases later
    · have nothing := parse_append built also
      rw [nothing] at left
      exact (blank_of_tokens left).2

/-- No proper beginning of an encoded object is read. -/
theorem loads_beginning {floatText : ℚ → Text} {separators : Separators}
    (separates : separators.Reads) {fields : JsonObject}
    (portable : Portable floatText (.obj fields)) (shallow : nesting (.obj fields) ≤ depth)
    (split : dumps floatText separators (.obj fields) = first ++ rest) (begun : first ≠ [])
    (cut : rest ≠ []) : loads depth first = none := by
  rw [dumps_obj] at split
  have opens : first.head? = some (CodePoint.ofNat 0x7B) := by
    rw [← List.head?_append_of_ne_nil first begun, ← split]
    rfl
  have closes : CodePoint.ofNat 0x7D ∈ rest := by
    apply List.mem_of_getLast?
    rw [← List.getLast?_append_of_ne_nil first cut, ← split]
    exact List.getLast?_concat
  cases read : loads depth first with
  | none => rfl
  | some value =>
    have whole := loads_dumps separates portable shallow
    rw [dumps_obj, split] at whole
    exact absurd (blank_of_loads opens read whole _ closes) (by decide)

end Objects

end Json

end Library
