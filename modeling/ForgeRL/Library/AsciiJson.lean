import ForgeRL.Library.Decoder
import Mathlib.Tactic.IntervalCases

namespace Library

/-!
# JSON texts of ASCII characters

The default encoder writes what the literal encoder writes, with an escape in
the place of every character beyond the printable ASCII ones.  A character
beyond the basic plane takes the escapes of its two surrogates.

The decoder reads such a string back to the string itself, except that the two
halves of a surrogate pair, written one after the other, come back as the one
character that they encode.
-/

namespace Json

/-- The escape of one UTF-16 code unit. -/
def unitEscape (unit : ℕ) : Text :=
  Text.ofString "\\u" ++ [hexDigit (unit / 4096), hexDigit (unit / 256 % 16),
    hexDigit (unit / 16 % 16), hexDigit (unit % 16)]

def asciiPoint (point : CodePoint) : Text :=
  if point.val < 0x7F then [point]
  else if point.val < 0x10000 then unitEscape point.val
  else unitEscape (0xD800 + (point.val - 0x10000) / 0x400) ++
    unitEscape (0xDC00 + (point.val - 0x10000) % 0x400)

def ascii (text : Text) : Text := text.flatMap asciiPoint

/-- `json.dumps` with `ensure_ascii`. -/
def dumps (floatText : ℚ → Text) (separators : Separators) (value : Json) : Text :=
  ascii (encode floatText separators value)

theorem ascii_append (first second : Text) : ascii (first ++ second) = ascii first ++ ascii second :=
  List.flatMap_append

/-- No character is shorter in ASCII than in UTF-8. -/
theorem utf8Size_le_length (point : CodePoint) :
    Text.utf8Size point ≤ (asciiPoint point).length := by
  have unit (value : ℕ) : (unitEscape value).length = 6 := rfl
  unfold Text.utf8Size asciiPoint
  split_ifs
  all_goals
    simp only [List.length_singleton, List.length_append, unit]
    omega

theorem size_le_length_ascii (text : Text) : Text.size text ≤ (ascii text).length := by
  induction text with
  | nil => exact Nat.zero_le _
  | cons point rest ih =>
      rw [Text.size, ascii, List.flatMap_cons, List.length_append]
      exact Nat.add_le_add (utf8Size_le_length point) ih

theorem encodedLength?_le {text : Text} {bytes : ℕ}
    (encoded : Text.encodedLength? text = some bytes) :
    bytes ≤ (ascii text).length := by
  unfold Text.encodedLength? at encoded
  split at encoded
  · cases encoded
    exact size_le_length_ascii text
  · cases encoded

/-- A text of ASCII characters is not changed. -/
theorem ascii_of_small {text : Text} (small : ∀ point ∈ text, point.val < 0x7F) :
    ascii text = text := by
  induction text with
  | nil => rfl
  | cons point rest ih =>
      have head := small point List.mem_cons_self
      have tail := ih fun other member => small other (List.mem_cons_of_mem _ member)
      rw [ascii, List.flatMap_cons, asciiPoint, if_pos head, ← ascii, tail]
      rfl

theorem hexDigit_small {digit : ℕ} (small : digit < 16) : (hexDigit digit).val < 0x7F := by
  unfold hexDigit
  split_ifs <;> simp only [Fin.ofNat] <;> omega

theorem unitEscape_small {unit : ℕ} (small : unit < 0x10000) :
    ∀ point ∈ unitEscape unit, point.val < 0x7F := by
  intro point member
  rcases List.mem_append.mp member with mark | digit
  · rcases List.mem_map.mp mark with ⟨letter, inside, rfl⟩
    have letters : "\\u".toList = ['\\', 'u'] := rfl
    rw [letters, List.mem_pair] at inside
    rcases inside with rfl | rfl <;> decide
  · simp only [List.mem_cons, List.not_mem_nil, or_false] at digit
    rcases digit with rfl | rfl | rfl | rfl <;> exact hexDigit_small (by omega)

/-- Every character of the default encoding is ASCII. -/
theorem ascii_small (text : Text) : ∀ point ∈ ascii text, point.val < 0x7F := by
  intro point member
  rcases List.mem_flatMap.mp member with ⟨source, _, written⟩
  have bound := source.isLt
  unfold asciiPoint at written
  split_ifs at written with small basic
  · rw [List.mem_singleton] at written
    exact written ▸ small
  · exact unitEscape_small basic point written
  · rcases List.mem_append.mp written with first | second
    · exact unitEscape_small (by omega) point first
    · exact unitEscape_small (by omega) point second

theorem ofString_small {source : String}
    (small : source.toList.all (fun letter => decide (letter.toNat < 0x7F)) = true) :
    ∀ point ∈ Text.ofString source, point.val < 0x7F := by
  intro point member
  rcases List.mem_map.mp member with ⟨letter, inside, rfl⟩
  exact of_decide_eq_true (List.all_eq_true.mp small letter inside)

/-- A literal of the program that is ASCII is written as it stands. -/
theorem ascii_ofString {source : String}
    (small : source.toList.all (fun letter => decide (letter.toNat < 0x7F)) = true) :
    ascii (Text.ofString source) = Text.ofString source :=
  ascii_of_small (ofString_small small)

/-! ## Surrogate pairs -/

def IsHigh (point : CodePoint) : Prop := 0xD800 ≤ point.val ∧ point.val ≤ 0xDBFF

def IsLow (point : CodePoint) : Prop := 0xDC00 ≤ point.val ∧ point.val ≤ 0xDFFF

instance : DecidablePred IsHigh := fun _ => inferInstanceAs (Decidable (_ ∧ _))

instance : DecidablePred IsLow := fun _ => inferInstanceAs (Decidable (_ ∧ _))

/-- The character that two surrogates encode. -/
def pairPoint (high low : CodePoint) : CodePoint :=
  CodePoint.ofNat (0x10000 + (high.val - 0xD800) * 0x400 + (low.val - 0xDC00))

/-- A text with every surrogate pair as one character. -/
def joinPairs : Text → Text
  | [] => []
  | [point] => [point]
  | high :: low :: rest =>
    if IsHigh high ∧ IsLow low then pairPoint high low :: joinPairs rest
    else high :: joinPairs (low :: rest)

theorem pairPoint_val {high low : CodePoint} (isHigh : IsHigh high) (isLow : IsLow low) :
    (pairPoint high low).val = 0x10000 + (high.val - 0xD800) * 0x400 + (low.val - 0xDC00) := by
  rw [pairPoint, CodePoint.ofNat]
  rcases isHigh with ⟨_, _⟩
  rcases isLow with ⟨_, _⟩
  simp only
  omega

theorem joinPairs_pair {high low : CodePoint} (isHigh : IsHigh high) (isLow : IsLow low)
    (rest : Text) : joinPairs (high :: low :: rest) = pairPoint high low :: joinPairs rest := by
  rw [joinPairs, if_pos ⟨isHigh, isLow⟩]

theorem joinPairs_cons {point : CodePoint} {rest : Text}
    (apart : IsHigh point → ∀ next ∈ rest.head?, ¬ IsLow next) :
    joinPairs (point :: rest) = point :: joinPairs rest := by
  cases rest with
  | nil => rfl
  | cons next rest =>
      rw [joinPairs, if_neg]
      rintro ⟨isHigh, isLow⟩
      exact apart isHigh next rfl isLow

/-- The first character of a joined text is the first character of the text,
or the character of a pair. -/
theorem head_joinPairs (text : Text) :
    (joinPairs text).head? = text.head? ∨ ∀ next ∈ (joinPairs text).head?, 0x10000 ≤ next.val := by
  match text with
  | [] => exact Or.inl rfl
  | [point] => exact Or.inl rfl
  | high :: low :: rest =>
      by_cases pair : IsHigh high ∧ IsLow low
      · right
        intro next first
        rw [joinPairs_pair pair.1 pair.2, List.head?_cons, Option.mem_some_iff] at first
        rw [← first, pairPoint_val pair.1 pair.2]
        omega
      · left
        rw [joinPairs, if_neg pair]
        rfl

/-- Joining is done after one pass. -/
theorem joinPairs_joinPairs (text : Text) : joinPairs (joinPairs text) = joinPairs text := by
  induction text using joinPairs.induct with
  | case1 => rfl
  | case2 point => rfl
  | case3 high low rest pair ih =>
      rw [joinPairs_pair pair.1 pair.2, joinPairs_cons, ih]
      intro isHigh
      have large := pairPoint_val pair.1 pair.2
      rw [IsHigh] at isHigh
      omega
  | case4 high low rest apart ih =>
      rw [joinPairs, if_neg apart, joinPairs_cons, ih]
      intro isHigh next first isLow
      rcases head_joinPairs (low :: rest) with same | large
      · rw [same, List.head?_cons, Option.mem_some_iff] at first
        exact apart ⟨isHigh, first ▸ isLow⟩
      · have far := large next first
        rw [IsLow] at isLow
        omega

/-- A text that UTF-8 can encode has no pairs to join. -/
theorem joinPairs_of_isEncodable {text : Text} (encodable : Text.isEncodable text = true) :
    joinPairs text = text := by
  induction text with
  | nil => rfl
  | cons point rest ih =>
      rw [Text.isEncodable, List.all_cons, Bool.and_eq_true] at encodable
      rw [joinPairs_cons, ih encodable.2]
      intro isHigh
      have plain : ¬ Text.IsSurrogate point := by simpa using encodable.1
      exact absurd ⟨isHigh.1, isHigh.2.trans (by decide)⟩ plain

/-! ## Reading a string back -/

theorem tokens_cons {lexer next : Lexer} {point : CodePoint} {read : List Token}
    (fed : lexer.feed point = some (read, next)) (rest : Text) :
    tokens lexer (point :: rest) = (tokens next rest).map fun later => read ++ later := by
  cases lexer <;> simp only [tokens, fed]

/-- A character that ends no token. -/
theorem tokens_quiet {lexer next : Lexer} {point : CodePoint}
    (fed : lexer.feed point = some ([], next)) (rest : Text) :
    tokens lexer (point :: rest) = tokens next rest := by
  rw [tokens_cons fed]
  exact Option.map_id'

theorem hexValue_hexDigit {digit : ℕ} (small : digit < 16) :
    hexValue (hexDigit digit) = some digit := by
  interval_cases digit <;> rfl

theorem feed_unicode {point : CodePoint} {digit : ℕ} (value : hexValue point = some digit)
    {digits : List ℕ} (short : digits.length < 3) (read : Text) (high : Bool) :
    (Lexer.unicode read high digits).feed point =
      some ([], .unicode read high (digits ++ [digit])) := by
  rcases digits with _ | ⟨first, _ | ⟨second, _ | ⟨third, more⟩⟩⟩
  · simp only [Lexer.feed, value]
  · simp only [Lexer.feed, value]
  · simp only [Lexer.feed, value]
  · simp only [List.length_cons] at short
    omega

theorem feed_unicode_last {point : CodePoint} {digit : ℕ} (value : hexValue point = some digit)
    (first second third : ℕ) (read : Text) (high : Bool) :
    (Lexer.unicode read high [first, second, third]).feed point =
      some ([], appendUnit read high (((first * 16 + second) * 16 + third) * 16 + digit)) := by
  unfold Lexer.feed
  simp only [value]

/-- An escape is read as its code unit. -/
theorem tokens_unitEscape {unit : ℕ} (small : unit < 0x10000) (read : Text) (high : Bool)
    (rest : Text) :
    tokens (.quoted read high) (unitEscape unit ++ rest) =
      tokens (appendUnit read high unit) rest := by
  have first := hexValue_hexDigit (show unit / 4096 < 16 by omega)
  have second := hexValue_hexDigit (show unit / 256 % 16 < 16 by omega)
  have third := hexValue_hexDigit (show unit / 16 % 16 < 16 by omega)
  have fourth := hexValue_hexDigit (show unit % 16 < 16 by omega)
  have whole : ((unit / 4096 * 16 + unit / 256 % 16) * 16 + unit / 16 % 16) * 16 + unit % 16 =
      unit := by omega
  have text : unitEscape unit ++ rest = CodePoint.ofNat 0x5C :: CodePoint.ofNat 0x75 ::
      hexDigit (unit / 4096) :: hexDigit (unit / 256 % 16) :: hexDigit (unit / 16 % 16) ::
        hexDigit (unit % 16) :: rest := rfl
  rw [text, tokens_quiet rfl, tokens_quiet rfl, tokens_quiet (feed_unicode first (by simp) _ _),
    tokens_quiet (feed_unicode second (by simp) _ _),
    tokens_quiet (feed_unicode third (by simp) _ _)]
  rw [List.nil_append, List.singleton_append, List.cons_append, List.singleton_append,
    tokens_quiet (feed_unicode_last fourth _ _ _ _ _), whole]

/-- The characters that the encoder writes for one character. -/
def pointText (point : CodePoint) : Text := ascii (escape point)

/-- The string that is open after a character has been read. -/
def afterPoint (read : Text) (high : Bool) (point : CodePoint) : Lexer :=
  if 0x7F ≤ point.val ∧ point.val < 0x10000 then appendUnit read high point.val
  else .quoted (read ++ [point]) false

theorem CodePoint.ofNat_val (point : CodePoint) : CodePoint.ofNat point.val = point :=
  Fin.ext (Nat.mod_eq_of_lt point.isLt)

/-- A unit that completes no pair is appended. -/
theorem appendUnit_apart {unit : ℕ} {high : Bool}
    (apart : high = true → ¬ (0xDC00 ≤ unit ∧ unit ≤ 0xDFFF)) (read : Text) :
    appendUnit read high unit =
      .quoted (read ++ [CodePoint.ofNat unit]) (decide (0xD800 ≤ unit ∧ unit ≤ 0xDBFF)) := by
  unfold appendUnit
  split
  · rw [if_neg (apart rfl)]
  · rfl

theorem appendUnit_low {unit : ℕ} (low : 0xDC00 ≤ unit ∧ unit ≤ 0xDFFF) (read : Text)
    (first : CodePoint) :
    appendUnit (read ++ [first]) true unit =
      .quoted (read ++
        [CodePoint.ofNat (0x10000 + (first.val - 0xD800) * 0x400 + (unit - 0xDC00))]) false := by
  simp [appendUnit, low.1, low.2]

/-- A control character is written as the escape of its code unit. -/
theorem ascii_control {unit : ℕ} (control : unit < 0x20) :
    ascii (Text.ofString "\\u00" ++ [hexDigit (unit / 16), hexDigit (unit % 16)]) =
      unitEscape unit := by
  have first : unit / 4096 = 0 := by omega
  have second : unit / 256 % 16 = 0 := by omega
  have third : unit / 16 % 16 = unit / 16 := by omega
  rw [unitEscape, first, second, third, ascii_append, ascii_ofString (by decide),
    ascii_of_small]
  · rfl
  · intro point member
    rw [List.mem_pair] at member
    rcases member with rfl | rfl
    · exact hexDigit_small (by omega)
    · exact hexDigit_small (by omega)

/-- A printable character that is no quote and no backslash stands for itself. -/
theorem feed_literal {point : CodePoint} (quote : point.val ≠ 0x22) (slash : point.val ≠ 0x5C)
    (printable : ¬ point.val < 0x20) (read : Text) (high : Bool) :
    (Lexer.quoted read high).feed point = some ([], .quoted (read ++ [point]) false) := by
  simp only [Lexer.feed, quote, slash, printable, if_false]

/-- A character beyond the basic plane is two units, and the second joins the
first. -/
theorem tokens_surrogates {point : CodePoint} (beyond : 0x10000 ≤ point.val) (read : Text)
    (high : Bool) (rest : Text) :
    tokens (.quoted read high) (unitEscape (0xD800 + (point.val - 0x10000) / 0x400) ++
        (unitEscape (0xDC00 + (point.val - 0x10000) % 0x400) ++ rest)) =
      tokens (.quoted (read ++ [point]) false) rest := by
  have bound := point.isLt
  have whole : 0x10000 + ((0xD800 + (point.val - 0x10000) / 0x400) - 0xD800) * 0x400 +
      ((0xDC00 + (point.val - 0x10000) % 0x400) - 0xDC00) = point.val := by omega
  have first : (CodePoint.ofNat (0xD800 + (point.val - 0x10000) / 0x400)).val =
      0xD800 + (point.val - 0x10000) / 0x400 := Nat.mod_eq_of_lt (by omega)
  have isHigh : 0xD800 ≤ 0xD800 + (point.val - 0x10000) / 0x400 ∧
      0xD800 + (point.val - 0x10000) / 0x400 ≤ 0xDBFF := by omega
  rw [tokens_unitEscape (by omega), appendUnit_apart (fun _ => by omega), decide_eq_true isHigh,
    tokens_unitEscape (by omega), appendUnit_low (by omega), first, whole, CodePoint.ofNat_val]

/-- One character of a string, as the encoder writes it. -/
theorem tokens_pointText (read : Text) (high : Bool) (point : CodePoint) (rest : Text) :
    tokens (.quoted read high) (pointText point ++ rest) =
      tokens (afterPoint read high point) rest := by
  have plain (own : CodePoint) (small : own.val < 0x7F) :
      afterPoint read high own = .quoted (read ++ [own]) false :=
    if_neg fun large => absurd large.1 (Nat.not_le.mpr small)
  have short (value : ℕ) (small : value < 0x7F) (same : point.val = value)
      (letters : tokens (.quoted read high) (pointText (CodePoint.ofNat value) ++ rest) =
        tokens (.quoted (read ++ [CodePoint.ofNat value]) false) rest) :
      tokens (.quoted read high) (pointText point ++ rest) =
        tokens (afterPoint read high point) rest := by
    have own : point = CodePoint.ofNat value := by rw [← same, CodePoint.ofNat_val]
    have kept : (CodePoint.ofNat value).val < 0x7F := by rw [← own, same]; exact small
    rw [own, plain _ kept, letters]
  by_cases quote : point.val = 0x22
  · exact short _ (by decide) quote ((tokens_quiet rfl _).trans (tokens_quiet rfl _))
  by_cases slash : point.val = 0x5C
  · exact short _ (by decide) slash ((tokens_quiet rfl _).trans (tokens_quiet rfl _))
  by_cases newline : point.val = 0x0A
  · exact short _ (by decide) newline ((tokens_quiet rfl _).trans (tokens_quiet rfl _))
  by_cases carriage : point.val = 0x0D
  · exact short _ (by decide) carriage ((tokens_quiet rfl _).trans (tokens_quiet rfl _))
  by_cases tab : point.val = 0x09
  · exact short _ (by decide) tab ((tokens_quiet rfl _).trans (tokens_quiet rfl _))
  by_cases feed : point.val = 0x0C
  · exact short _ (by decide) feed ((tokens_quiet rfl _).trans (tokens_quiet rfl _))
  by_cases back : point.val = 0x08
  · exact short _ (by decide) back ((tokens_quiet rfl _).trans (tokens_quiet rfl _))
  have letters : escape point = if point.val < 0x20 then
      Text.ofString "\\u00" ++ [hexDigit (point.val / 16), hexDigit (point.val % 16)]
      else [point] := by
    simp only [escape, quote, slash, newline, carriage, tab, feed, back, if_false]
  rw [pointText, letters]
  by_cases control : point.val < 0x20
  · rw [if_pos control, ascii_control control, tokens_unitEscape (by omega),
      appendUnit_apart (fun _ => by omega), plain point (by omega), CodePoint.ofNat_val]
    have apart : ¬ (0xD800 ≤ point.val ∧ point.val ≤ 0xDBFF) := by omega
    rw [decide_eq_false apart]
  · rw [if_neg control, ascii, List.flatMap_singleton, asciiPoint]
    by_cases small : point.val < 0x7F
    · rw [if_pos small, plain point small]
      exact tokens_quiet (feed_literal quote slash control read high) rest
    by_cases basic : point.val < 0x10000
    · rw [if_neg small, if_pos basic, afterPoint, if_pos ⟨Nat.not_lt.mp small, basic⟩]
      exact tokens_unitEscape basic read high rest
    · have beyond : ¬ (0x7F ≤ point.val ∧ point.val < 0x10000) := fun inside => basic inside.2
      rw [if_neg small, if_neg basic, afterPoint, if_neg beyond, List.append_assoc]
      exact tokens_surrogates (Nat.not_lt.mp basic) read high rest

/-- A string up to its closing quote, from a state in which the last character
may be the first half of a pair. -/
theorem tokens_quoted (text rest : Text) :
    (∀ read, tokens (.quoted read false)
      (text.flatMap pointText ++ CodePoint.ofNat 0x22 :: rest) =
        (tokens .between rest).map fun later => .text (read ++ joinPairs text) :: later) ∧
    ∀ read high, IsHigh high → tokens (.quoted (read ++ [high]) true)
      (text.flatMap pointText ++ CodePoint.ofNat 0x22 :: rest) =
        (tokens .between rest).map fun later =>
          .text (read ++ joinPairs (high :: text)) :: later := by
  have closed (read : Text) (high : Bool) : tokens (.quoted read high)
      (CodePoint.ofNat 0x22 :: rest) =
        (tokens .between rest).map fun later => .text read :: later := by
    have ended : (Lexer.quoted read high).feed (CodePoint.ofNat 0x22) =
        some ([.text read], .between) := rfl
    exact tokens_cons ended rest
  induction text with
  | nil =>
      constructor
      · intro read
        rw [List.flatMap_nil, List.nil_append, closed, joinPairs, List.append_nil]
      · intro read high _
        exact closed _ _
  | cons point text ih =>
      rcases ih with ⟨plain, pending⟩
      have unpaired (read : Text) (alone : ¬ IsHigh point) :
          tokens (.quoted (read ++ [point]) false)
              (text.flatMap pointText ++ CodePoint.ofNat 0x22 :: rest) =
            (tokens .between rest).map fun later =>
              .text (read ++ joinPairs (point :: text)) :: later := by
        rw [plain, joinPairs_cons (fun isHigh => absurd isHigh alone), List.append_assoc,
          List.singleton_append]
      -- a character that does not join what stands before it
      have appended (read : Text) (high : Bool) (apart : high = true → ¬ IsLow point) :
          tokens (afterPoint read high point)
              (text.flatMap pointText ++ CodePoint.ofNat 0x22 :: rest) =
            (tokens .between rest).map fun later =>
              .text (read ++ joinPairs (point :: text)) :: later := by
        unfold afterPoint
        split_ifs with unit
        · rw [appendUnit_apart apart, CodePoint.ofNat_val]
          by_cases isHigh : IsHigh point
          · rw [decide_eq_true (show 0xD800 ≤ point.val ∧ point.val ≤ 0xDBFF from isHigh),
              pending read point isHigh]
          · rw [decide_eq_false (show ¬ (0xD800 ≤ point.val ∧ point.val ≤ 0xDBFF) from isHigh),
              unpaired read isHigh]
        · refine unpaired read fun isHigh => unit ?_
          rw [IsHigh] at isHigh
          omega
      constructor
      · intro read
        rw [List.flatMap_cons, List.append_assoc, tokens_pointText]
        exact appended read false (fun impossible => Bool.noConfusion impossible)
      · intro read high isHigh
        rw [List.flatMap_cons, List.append_assoc, tokens_pointText]
        by_cases isLow : IsLow point
        · have unit : 0x7F ≤ point.val ∧ point.val < 0x10000 := by
            rw [IsLow] at isLow
            omega
          rw [afterPoint, if_pos unit, appendUnit_low isLow, plain, joinPairs_pair isHigh isLow,
            List.append_assoc, List.singleton_append, pairPoint]
        · have kept : joinPairs (high :: point :: text) = high :: joinPairs (point :: text) := by
            rw [joinPairs, if_neg fun pair => isLow pair.2]
          rw [appended (read ++ [high]) true (fun _ => isLow), kept, List.append_assoc,
            List.singleton_append]

theorem ascii_quote (text : Text) :
    ascii (quote text) =
      CodePoint.ofNat 0x22 :: (text.flatMap pointText ++ [CodePoint.ofNat 0x22]) := by
  have inside : ascii (text.flatMap escape) = text.flatMap pointText := List.flatMap_assoc
  rw [quote, ascii_append, ascii_append, inside, ascii_ofString (by decide)]
  rfl

/-- A string is one token: its joined text. -/
theorem tokens_quote (text rest : Text) :
    tokens .between (ascii (quote text) ++ rest) =
      (tokens .between rest).map fun later => .text (joinPairs text) :: later := by
  rw [ascii_quote, List.cons_append, List.append_assoc, List.singleton_append]
  exact (tokens_quiet rfl _).trans ((tokens_quoted text rest).1 [])

theorem escape_of_large {point : CodePoint} (large : 0x7F ≤ point.val) : escape point = [point] := by
  unfold escape
  split_ifs <;> first | omega | rfl

/-- The character of a pair is written as its two halves. -/
theorem pointText_pair {high low : CodePoint} (isHigh : IsHigh high) (isLow : IsLow low) :
    pointText (pairPoint high low) = pointText high ++ pointText low := by
  have value := pairPoint_val isHigh isLow
  rcases isHigh with ⟨highFrom, highTo⟩
  rcases isLow with ⟨lowFrom, lowTo⟩
  have upper : 0xD800 + ((pairPoint high low).val - 0x10000) / 0x400 = high.val := by omega
  have lower : 0xDC00 + ((pairPoint high low).val - 0x10000) % 0x400 = low.val := by omega
  have unit (point : CodePoint) (large : 0x7F ≤ point.val) (basic : point.val < 0x10000) :
      pointText point = unitEscape point.val := by
    rw [pointText, escape_of_large large, ascii, List.flatMap_singleton, asciiPoint,
      if_neg (Nat.not_lt.mpr large), if_pos basic]
  rw [unit high (by omega) (by omega), unit low (by omega) (by omega), pointText,
    escape_of_large (by omega), ascii, List.flatMap_singleton, asciiPoint, if_neg (by omega),
    if_neg (by omega), upper, lower]

/-- A joined text is written as the text itself. -/
theorem ascii_quote_joinPairs (text : Text) :
    ascii (quote (joinPairs text)) = ascii (quote text) := by
  have same : (joinPairs text).flatMap pointText = text.flatMap pointText := by
    induction text using joinPairs.induct with
    | case1 => rfl
    | case2 point => rfl
    | case3 high low rest pair ih =>
        rw [joinPairs_pair pair.1 pair.2, List.flatMap_cons, List.flatMap_cons, List.flatMap_cons, ih,
          pointText_pair pair.1 pair.2, List.append_assoc]
    | case4 high low rest apart ih =>
        rw [joinPairs, if_neg apart, List.flatMap_cons, ih, ← List.flatMap_cons]
  rw [ascii_quote, ascii_quote, same]

end Json

end Library
