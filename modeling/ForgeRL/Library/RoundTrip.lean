import ForgeRL.Library.AsciiJson

namespace Library

/-!
# Reading an encoded value back

`loads` after `dumps` gives the value back, up to the surrogate pairs in its
strings and names: the two halves of a pair come back as one character, and
two names of one object that this makes equal come back as one field.

Three things have to be promised.  Integers are short enough to be converted,
the text of a float reads back to the float, and the containers do not nest
deeper than the interpreter allows.
-/

namespace Json

/-! ## Words -/

/-- A character that ends a word. -/
def EndsWord (point : CodePoint) : Prop :=
  isBlank point = true ∨ point.val = 0x22 ∨ (punctuation point).isSome = true

instance : DecidablePred EndsWord := fun _ => inferInstanceAs (Decidable (_ ∨ _))

/-- What stands after a value: nothing, or a character that ends a word. -/
def Delimited (rest : Text) : Prop := ∀ point ∈ rest.head?, EndsWord point

def IsWord (letters : Text) : Prop := letters ≠ [] ∧ ∀ point ∈ letters, ¬ EndsWord point

theorem beginToken_eq (ended : List Token) (point : CodePoint) :
    beginToken ended point = (ended ++ (beginToken [] point).1, (beginToken [] point).2) := by
  unfold beginToken
  split_ifs
  · simp
  · simp
  · split <;> simp

theorem tokens_letters (letters : Text) (inside : ∀ point ∈ letters, ¬ EndsWord point)
    (read rest : Text) :
    tokens (.letters read) (letters ++ rest) = tokens (.letters (read ++ letters)) rest := by
  induction letters generalizing read with
  | nil => rw [List.nil_append, List.append_nil]
  | cons point letters ih =>
      have fed : (Lexer.letters read).feed point = some ([], .letters (read ++ [point])) :=
        if_neg (inside point List.mem_cons_self)
      rw [List.cons_append, tokens_quiet fed,
        ih (fun other member => inside other (List.mem_cons_of_mem _ member)), List.append_assoc,
        List.singleton_append]

theorem tokens_letters_end {letters rest : Text} {value : Json} (reads : word letters = some value)
    (delimited : Delimited rest) :
    tokens (.letters letters) rest =
      (tokens .between rest).map fun later => .scalar value :: later := by
  cases rest with
  | nil => simp only [tokens, reads, Option.map_some]
  | cons point rest =>
      have ends : EndsWord point := delimited point rfl
      have fed : (Lexer.letters letters).feed point = some (beginToken [.scalar value] point) := by
        unfold EndsWord at ends
        rw [Lexer.feed, if_pos ends, reads]
        rfl
      have begun : Lexer.between.feed point = some (beginToken [] point) := rfl
      rw [beginToken_eq] at fed
      rw [tokens_cons fed, tokens_cons begun, Option.map_map]
      rfl

/-- A word is one token: its value. -/
theorem tokens_word {letters rest : Text} {value : Json} (isWord : IsWord letters)
    (reads : word letters = some value) (delimited : Delimited rest) :
    tokens .between (letters ++ rest) =
      (tokens .between rest).map fun later => .scalar value :: later := by
  rcases isWord with ⟨some_, inside⟩
  cases letters with
  | nil => exact absurd rfl some_
  | cons point letters =>
      have starts := inside point List.mem_cons_self
      have begun : Lexer.between.feed point = some ([], .letters [point]) := by
        simp only [EndsWord, not_or, Bool.not_eq_true, Option.isSome_eq_false_iff,
          Option.isNone_iff_eq_none] at starts
        simp only [Lexer.feed, beginToken, starts.1, starts.2.1, starts.2.2, Bool.false_eq_true,
          if_false]
      rw [List.cons_append, tokens_quiet begun, tokens_letters letters
        (fun other member => inside other (List.mem_cons_of_mem _ member)), List.singleton_append,
        tokens_letters_end reads delimited]

/-! ## Integers -/

/-- The digits of a natural number. -/
def natText (value : ℕ) : Text := Text.ofString value.repr

theorem natText_eq (value : ℕ) :
    natText value =
      (Nat.toDigits 10 value).map fun letter => ⟨letter.toNat, Char.toNat_lt letter⟩ := by
  rw [natText, Text.ofString, Nat.toList_repr]

theorem isDigit_natText (value : ℕ) : ∀ point ∈ natText value, isDigit point = true := by
  intro point member
  rw [natText_eq] at member
  rcases List.mem_map.mp member with ⟨letter, inside, rfl⟩
  have digit := Nat.isDigit_of_mem_toDigits (by decide) (by decide) inside
  exact decide_eq_true (Char.isDigit_iff_toNat.mp digit)

theorem digitsValue_natText (value : ℕ) : digitsValue (natText value) = value := by
  rw [natText_eq, digitsValue, List.foldl_map]
  exact (Nat.ofDigitChars_eq_foldl).symm.trans Nat.ofDigitChars_ten_toDigits

theorem natText_ne_nil (value : ℕ) : natText value ≠ [] := by
  rw [natText_eq, ne_eq, List.map_eq_nil_iff]
  exact Nat.toDigits_ne_nil

/-- Only zero begins with a zero. -/
theorem head_toDigits (value : ℕ) (positive : 0 < value) :
    (Nat.toDigits 10 value).head? ≠ some '0' := by
  induction value using Nat.strong_induction_on with
  | _ value ih =>
      by_cases small : value < 10
      · rw [Nat.toDigits_of_lt_base small]
        interval_cases value <;> decide
      · rw [Nat.toDigits_of_base_le (by decide) (Nat.not_lt.mp small),
          List.head?_append_of_ne_nil _ Nat.toDigits_ne_nil]
        exact ih (value / 10) (by omega) (by omega)

/-- The conversion of `int` takes the digits of the value. -/
def ShortInt (value : ℤ) : Prop := (natText value.natAbs).length ≤ maxDigits

instance (value : ℤ) : Decidable (ShortInt value) := inferInstanceAs (Decidable (_ ≤ _))

/-- A text of digits is read as an integer. -/
theorem unsignedNumber_natText (negative : Bool) {value : ℕ}
    (short : (natText value).length ≤ maxDigits) :
    unsignedNumber negative (natText value) =
      some (.int (if negative then -(value : ℤ) else value)) := by
  have digits := isDigit_natText value
  have taken : (natText value).takeWhile isDigit = natText value :=
    List.takeWhile_eq_self_iff.mpr digits
  have dropped : (natText value).dropWhile isDigit = [] := List.dropWhile_eq_nil_iff.mpr digits
  have canonical : ¬ ((natText value).isEmpty ∨
      ((natText value).head? = some (CodePoint.ofNat 48) ∧ 1 < (natText value).length)) := by
    rintro (empty | ⟨zero, long⟩)
    · exact natText_ne_nil value (List.isEmpty_iff.mp empty)
    · rw [natText_eq, List.head?_map, Option.map_eq_some_iff] at zero
      rcases zero with ⟨letter, first, same⟩
      have own : letter = '0' := Char.toNat_inj.mp (Fin.mk.inj same)
      rcases Nat.eq_zero_or_pos value with none | positive
      · rw [none, natText_eq, Nat.toDigits_zero, List.map_singleton, List.length_singleton] at long
        exact absurd long (lt_irrefl 1)
      · exact head_toDigits value positive (own ▸ first)
  unfold unsignedNumber
  simp only [taken, dropped, canonical, if_false, readFraction, readExponent, List.isEmpty_nil,
    and_self, if_true, Nat.not_lt.mpr short, digitsValue_natText]

theorem intText_of_nonneg {value : ℤ} (above : 0 ≤ value) :
    Text.ofString (toString value) = natText value.natAbs := by
  have size : value.toNat = value.natAbs := by omega
  rw [Int.toString_eq_repr, Int.repr_eq_if, if_pos above, natText, size]

theorem intText_of_neg {value : ℤ} (below : value < 0) :
    Text.ofString (toString value) = CodePoint.ofNat 0x2D :: natText value.natAbs := by
  have size : (-value).toNat = value.natAbs := by omega
  rw [Int.toString_eq_repr, Int.repr_eq_if, if_neg (not_le.mpr below), size, natText, Text.ofString,
    String.toList_append, List.map_append]
  rfl

/-- A text whose first or second character is a digit is none of the six names. -/
theorem word_eq_number {letters : Text} {digit : CodePoint} (isDigit_ : isDigit digit = true)
    (starts : letters.head? = some digit ∨ (letters.drop 1).head? = some digit) :
    word letters = number letters := by
  have named (name : String)
      (first : (Text.ofString name).head?.all (fun point => !isDigit point) = true)
      (second : ((Text.ofString name).drop 1).head?.all (fun point => !isDigit point) = true) :
      letters ≠ Text.ofString name := by
    rintro rfl
    rcases starts with head | next
    · rw [head, Option.all_some, isDigit_] at first
      cases first
    · rw [next, Option.all_some, isDigit_] at second
      cases second
  unfold word
  rw [if_neg (named "null" (by decide) (by decide)), if_neg (named "true" (by decide) (by decide)),
    if_neg (named "false" (by decide) (by decide)), if_neg (named "NaN" (by decide) (by decide)),
    if_neg (named "Infinity" (by decide) (by decide)),
    if_neg (named "-Infinity" (by decide) (by decide))]

/-- The text of an integer is read as the integer. -/
theorem word_int {value : ℤ} (short : ShortInt value) :
    word (Text.ofString (toString value)) = some (.int value) := by
  have reads (negative : Bool) := unsignedNumber_natText negative short
  cases digits : natText value.natAbs with
  | nil => exact absurd digits (natText_ne_nil _)
  | cons digit more =>
      have isDigit_ : isDigit digit = true :=
        isDigit_natText value.natAbs digit (digits ▸ List.mem_cons_self)
      rcases lt_or_ge value 0 with below | above
      · have whole : -(value.natAbs : ℤ) = value := by omega
        rw [intText_of_neg below, word_eq_number isDigit_ (Or.inr (by rw [digits]; rfl)), number,
          if_pos (by decide), reads true, if_pos rfl, whole]
      · have whole : (value.natAbs : ℤ) = value := by omega
        have unsigned : digit.val ≠ 0x2D := by
          intro sign
          rw [isDigit, decide_eq_true_eq] at isDigit_
          omega
        rw [intText_of_nonneg above, word_eq_number isDigit_ (Or.inl (by rw [digits]; rfl)), digits,
          number, if_neg unsigned, ← digits, reads false, if_neg Bool.false_ne_true, whole]

/-! ## What has to be promised of a value -/

section Values

variable (floatText : ℚ → Text)

/-- The text of a float is an ASCII word that reads back to the float. -/
structure FloatReads (value : ℚ) : Prop where
  isWord : IsWord (floatText value)
  small : ∀ point ∈ floatText value, point.val < 0x7F
  reads : word (floatText value) = some (.float (.finite value))

mutual

/-- The text of every float reads back to the float. -/
def FloatsRead : Json → Prop
  | .float (.finite value) => FloatReads floatText value
  | .arr items => ItemsFloatsRead items
  | .obj fields => FieldsFloatsRead fields
  | _ => True

def ItemsFloatsRead : List Json → Prop
  | [] => True
  | item :: items => FloatsRead item ∧ ItemsFloatsRead items

def FieldsFloatsRead : JsonObject → Prop
  | [] => True
  | (_, value) :: fields => FloatsRead value ∧ FieldsFloatsRead fields

end

mutual

/-- Every number of a value is read back from its text. -/
def Portable : Json → Prop
  | .int value => ShortInt value
  | .float (.finite value) => FloatReads floatText value
  | .arr items => ArePortable items
  | .obj fields => FieldsPortable fields
  | _ => True

def ArePortable : List Json → Prop
  | [] => True
  | item :: items => Portable item ∧ ArePortable items

def FieldsPortable : JsonObject → Prop
  | [] => True
  | (_, value) :: fields => Portable value ∧ FieldsPortable fields

end

end Values

mutual

/-- The integers of a value are short enough to be converted. -/
def intsShort : Json → Bool
  | .int value => decide (ShortInt value)
  | .arr items => itemsIntsShort items
  | .obj fields => fieldsIntsShort fields
  | _ => true

def itemsIntsShort : List Json → Bool
  | [] => true
  | item :: items => intsShort item && itemsIntsShort items

def fieldsIntsShort : JsonObject → Bool
  | [] => true
  | (_, value) :: fields => intsShort value && fieldsIntsShort fields

end

mutual

theorem portable_of {floatText : ℚ → Text} :
    ∀ (value : Json), intsShort value = true → FloatsRead floatText value → Portable floatText value
  | .null, _, _ => trivial
  | .bool _, _, _ => trivial
  | .int value, short, _ => (of_decide_eq_true short : ShortInt value)
  | .float (.finite _), _, read => read
  | .float .nan, _, _ => trivial
  | .float (.infinity _), _, _ => trivial
  | .str _, _, _ => trivial
  | .arr items, short, read => arePortable_of items short read
  | .obj fields, short, read => fieldsPortable_of fields short read

theorem arePortable_of {floatText : ℚ → Text} :
    ∀ (items : List Json), itemsIntsShort items = true → ItemsFloatsRead floatText items →
      ArePortable floatText items
  | [], _, _ => trivial
  | item :: items, short, read => by
    rw [itemsIntsShort, Bool.and_eq_true] at short
    exact ⟨portable_of item short.1 read.1, arePortable_of items short.2 read.2⟩

theorem fieldsPortable_of {floatText : ℚ → Text} :
    ∀ (fields : JsonObject), fieldsIntsShort fields = true → FieldsFloatsRead floatText fields →
      FieldsPortable floatText fields
  | [], _, _ => trivial
  | (name, value) :: fields, short, read => by
    rw [fieldsIntsShort, Bool.and_eq_true] at short
    exact ⟨portable_of value short.1 read.1, fieldsPortable_of fields short.2 read.2⟩

end

mutual

/-- How deep the containers of a value nest. -/
def nesting : Json → ℕ
  | .arr items => itemsNesting items + 1
  | .obj fields => fieldsNesting fields + 1
  | _ => 0

def itemsNesting : List Json → ℕ
  | [] => 0
  | item :: items => max (nesting item) (itemsNesting items)

def fieldsNesting : JsonObject → ℕ
  | [] => 0
  | (_, value) :: fields => max (nesting value) (fieldsNesting fields)

end

mutual

/-- A value as it comes back. -/
def joined : Json → Json
  | .str text => .str (joinPairs text)
  | .arr items => .arr (joinedItems items)
  | .obj fields => .obj (joinedFields [] fields)
  | value => value

def joinedItems : List Json → List Json
  | [] => []
  | item :: items => joined item :: joinedItems items

def joinedFields (read : JsonObject) : JsonObject → JsonObject
  | [] => read
  | (name, value) :: fields =>
    joinedFields (setField read (joinPairs name) (joined value)) fields

end

/-! ## The tokens of a value -/

mutual

def valueTokens : Json → List Token
  | .str text => [.text (joinPairs text)]
  | .arr items => .openArray :: (itemsTokens items ++ [.closeArray])
  | .obj fields => .openObject :: (fieldsTokens fields ++ [.closeObject])
  | value => [.scalar value]

def itemsTokens : List Json → List Token
  | [] => []
  | [item] => valueTokens item
  | item :: next :: items => valueTokens item ++ .comma :: itemsTokens (next :: items)

def fieldsTokens : JsonObject → List Token
  | [] => []
  | [(name, value)] => .text (joinPairs name) :: .colon :: valueTokens value
  | (name, value) :: next :: fields =>
    .text (joinPairs name) :: .colon :: (valueTokens value ++ .comma :: fieldsTokens (next :: fields))

end

/-- The separators are a comma and a colon, with blanks after them. -/
structure Separators.Reads (separators : Separators) : Prop where
  item : ∀ rest, tokens .between (ascii (Text.ofString separators.item) ++ rest) =
    (tokens .between rest).map fun later => .comma :: later
  key : ∀ rest, tokens .between (ascii (Text.ofString separators.key) ++ rest) =
    (tokens .between rest).map fun later => .colon :: later
  delimits : ∀ rest, Delimited (ascii (Text.ofString separators.item) ++ rest)

theorem tokens_punctuation {point : CodePoint} {token : Token}
    (fed : Lexer.between.feed point = some ([token], .between)) (rest : Text) :
    tokens .between (point :: rest) = (tokens .between rest).map fun later => token :: later :=
  tokens_cons fed rest

theorem delimited_cons {point : CodePoint} (ends : EndsWord point) (rest : Text) :
    Delimited (point :: rest) := by
  intro other first
  rw [List.head?_cons, Option.mem_some_iff] at first
  exact first ▸ ends

theorem compactSeparators_reads : compactSeparators.Reads := by
  refine ⟨?_, ?_, ?_⟩
  · intro rest
    rw [compactSeparators, ascii_ofString (by decide)]
    exact tokens_punctuation rfl rest
  · intro rest
    rw [compactSeparators, ascii_ofString (by decide)]
    exact tokens_punctuation rfl rest
  · intro rest
    rw [compactSeparators, ascii_ofString (by decide)]
    exact delimited_cons (by decide) rest

theorem defaultSeparators_reads : defaultSeparators.Reads := by
  have blank (rest : Text) : tokens .between (CodePoint.ofNat 0x20 :: rest) = tokens .between rest :=
    tokens_quiet rfl rest
  refine ⟨?_, ?_, ?_⟩
  · intro rest
    rw [defaultSeparators, ascii_ofString (by decide)]
    exact (tokens_punctuation rfl _).trans (by rw [← blank rest]; rfl)
  · intro rest
    rw [defaultSeparators, ascii_ofString (by decide)]
    exact (tokens_punctuation rfl _).trans (by rw [← blank rest]; rfl)
  · intro rest
    rw [defaultSeparators, ascii_ofString (by decide)]
    exact delimited_cons (by decide) _

section Lexing

variable {floatText : ℚ → Text} {separators : Separators}

theorem isWord_ofString {source : String} (letters : source.toList ≠ [])
    (inside : source.toList.all (fun letter =>
      !decide (EndsWord ⟨letter.toNat, Char.toNat_lt letter⟩)) = true) :
    IsWord (Text.ofString source) := by
  refine ⟨?_, ?_⟩
  · rw [Text.ofString, ne_eq, List.map_eq_nil_iff]
    exact letters
  · intro point member
    rcases List.mem_map.mp member with ⟨letter, stored, rfl⟩
    have apart := List.all_eq_true.mp inside letter stored
    simpa using apart

/-- One of the six names, or the text of a number. -/
theorem tokens_scalar {letters : Text} {value : Json} (isWord : IsWord letters)
    (small : ∀ point ∈ letters, point.val < 0x7F) (reads : word letters = some value) {rest : Text}
    (delimited : Delimited rest) :
    tokens .between (ascii letters ++ rest) =
      (tokens .between rest).map fun later => .scalar value :: later := by
  rw [ascii_of_small small]
  exact tokens_word isWord reads delimited

theorem tokens_name {source : String} {value : Json} (letters : source.toList ≠ [])
    (inside : source.toList.all (fun letter =>
      !decide (EndsWord ⟨letter.toNat, Char.toNat_lt letter⟩)) = true)
    (small : source.toList.all (fun letter => decide (letter.toNat < 0x7F)) = true)
    (reads : word (Text.ofString source) = some value) {rest : Text} (delimited : Delimited rest) :
    tokens .between (ascii (Text.ofString source) ++ rest) =
      (tokens .between rest).map fun later => .scalar value :: later :=
  tokens_scalar (isWord_ofString letters inside) (ofString_small small) reads delimited

theorem digit_letter {point : CodePoint} (digit : isDigit point = true) :
    ¬ EndsWord point ∧ point.val < 0x7F := by
  rw [isDigit, decide_eq_true_eq] at digit
  refine ⟨?_, by omega⟩
  rintro (blank | quote | mark)
  · rw [isBlank, decide_eq_true_eq] at blank
    omega
  · omega
  · unfold punctuation at mark
    split_ifs at mark <;> first | omega | cases mark

theorem intText_letters (value : ℤ) :
    IsWord (Text.ofString (toString value)) ∧
      ∀ point ∈ Text.ofString (toString value), point.val < 0x7F := by
  have digits (point : CodePoint) (member : point ∈ natText value.natAbs) :=
    digit_letter (isDigit_natText _ point member)
  rcases lt_or_ge value 0 with below | above
  · rw [intText_of_neg below]
    refine ⟨⟨List.cons_ne_nil _ _, ?_⟩, ?_⟩
    · intro point member
      rcases List.mem_cons.mp member with rfl | digit
      · decide
      · exact (digits point digit).1
    · intro point member
      rcases List.mem_cons.mp member with rfl | digit
      · decide
      · exact (digits point digit).2
  · rw [intText_of_nonneg above]
    exact ⟨⟨natText_ne_nil _, fun point member => (digits point member).1⟩,
      fun point member => (digits point member).2⟩

/-- A bracket is one token. -/
theorem tokens_mark {source : String} {token : Token} (point : CodePoint)
    (one : ascii (Text.ofString source) = [point])
    (fed : Lexer.between.feed point = some ([token], .between)) (rest : Text) :
    tokens .between (ascii (Text.ofString source) ++ rest) =
      (tokens .between rest).map fun later => token :: later := by
  rw [one]
  exact tokens_punctuation fed rest

theorem tokens_arrayMarks (rest : Text) :
    tokens .between (ascii (Text.ofString "[") ++ rest) =
        (tokens .between rest).map (fun later => .openArray :: later) ∧
      tokens .between (ascii (Text.ofString "]") ++ rest) =
        (tokens .between rest).map (fun later => .closeArray :: later) :=
  ⟨tokens_mark (CodePoint.ofNat 0x5B) rfl rfl rest, tokens_mark (CodePoint.ofNat 0x5D) rfl rfl rest⟩

theorem tokens_objectMarks (rest : Text) :
    tokens .between (ascii (Text.ofString "\x7b") ++ rest) =
        (tokens .between rest).map (fun later => .openObject :: later) ∧
      tokens .between (ascii (Text.ofString "\x7d") ++ rest) =
        (tokens .between rest).map (fun later => .closeObject :: later) :=
  ⟨tokens_mark (CodePoint.ofNat 0x7B) rfl rfl rest, tokens_mark (CodePoint.ofNat 0x7D) rfl rfl rest⟩

theorem delimited_closing (rest : Text) :
    Delimited (ascii (Text.ofString "]") ++ rest) ∧
      Delimited (ascii (Text.ofString "\x7d") ++ rest) :=
  ⟨@delimited_cons (CodePoint.ofNat 0x5D) (by decide) rest,
    @delimited_cons (CodePoint.ofNat 0x7D) (by decide) rest⟩

mutual

/-- The text of a value is cut into the tokens of the value. -/
theorem tokens_encode (separates : separators.Reads) :
    ∀ (value : Json) (_ : Portable floatText value) (rest : Text) (_ : Delimited rest),
      tokens .between (ascii (encode floatText separators value) ++ rest) =
        (tokens .between rest).map fun later => valueTokens value ++ later
  | .null, _, _, delimited =>
    tokens_name (by decide) (by decide) (by decide) rfl delimited
  | .bool true, _, _, delimited =>
    tokens_name (by decide) (by decide) (by decide) rfl delimited
  | .bool false, _, _, delimited =>
    tokens_name (by decide) (by decide) (by decide) rfl delimited
  | .int value, short, _, delimited =>
    tokens_scalar (intText_letters value).1 (intText_letters value).2 (word_int short) delimited
  | .float (.finite _), read, _, delimited =>
    tokens_scalar read.isWord read.small read.reads delimited
  | .float .nan, _, _, delimited =>
    tokens_name (by decide) (by decide) (by decide) rfl delimited
  | .float (.infinity false), _, _, delimited =>
    tokens_name (by decide) (by decide) (by decide) rfl delimited
  | .float (.infinity true), _, _, delimited =>
    tokens_name (by decide) (by decide) (by decide) rfl delimited
  | .str text, _, rest, _ => tokens_quote text rest
  | .arr items, portable, rest, _ => by
    have inside := tokens_encodeItems separates items portable
      (ascii (Text.ofString "]") ++ rest) (delimited_closing rest).1
    rw [encode, ascii_append, ascii_append, List.append_assoc, List.append_assoc,
      (tokens_arrayMarks _).1, inside, (tokens_arrayMarks rest).2, valueTokens]
    simp only [Option.map_map, Function.comp_def, List.cons_append, List.append_assoc,
      List.nil_append]
  | .obj fields, portable, rest, _ => by
    have inside := tokens_encodeFields separates fields portable
      (ascii (Text.ofString "\x7d") ++ rest) (delimited_closing rest).2
    rw [encode, ascii_append, ascii_append, List.append_assoc, List.append_assoc,
      (tokens_objectMarks _).1, inside, (tokens_objectMarks rest).2, valueTokens]
    simp only [Option.map_map, Function.comp_def, List.cons_append, List.append_assoc,
      List.nil_append]

theorem tokens_encodeItems (separates : separators.Reads) :
    ∀ (items : List Json) (_ : ArePortable floatText items) (rest : Text) (_ : Delimited rest),
      tokens .between (ascii (encodeItems floatText separators items) ++ rest) =
        (tokens .between rest).map fun later => itemsTokens items ++ later
  | [], _, rest, _ => by
    rw [encodeItems, itemsTokens]
    exact Option.map_id'.symm
  | [item], portable, rest, delimited => by
    rw [encodeItems, itemsTokens]
    exact tokens_encode separates item portable.1 rest delimited
  | item :: next :: items, portable, rest, delimited => by
    have later := tokens_encodeItems separates (next :: items) portable.2 rest delimited
    have first := tokens_encode separates item portable.1
      (ascii (Text.ofString separators.item) ++
        (ascii (encodeItems floatText separators (next :: items)) ++ rest)) (separates.delimits _)
    rw [encodeItems, itemsTokens, ascii_append, ascii_append, List.append_assoc, List.append_assoc,
      first, separates.item, later]
    simp only [Option.map_map, Function.comp_def, List.cons_append, List.append_assoc]

theorem tokens_encodeFields (separates : separators.Reads) :
    ∀ (fields : JsonObject) (_ : FieldsPortable floatText fields) (rest : Text)
      (_ : Delimited rest),
      tokens .between (ascii (encodeFields floatText separators fields) ++ rest) =
        (tokens .between rest).map fun later => fieldsTokens fields ++ later
  | [], _, rest, _ => by
    rw [encodeFields, fieldsTokens]
    exact Option.map_id'.symm
  | [(name, value)], portable, rest, delimited => by
    have read := tokens_encode separates value portable.1 rest delimited
    rw [encodeFields, fieldsTokens, ascii_append, ascii_append, List.append_assoc, List.append_assoc,
      tokens_quote, separates.key, read]
    simp only [Option.map_map, Function.comp_def, List.cons_append]
  | (name, value) :: next :: fields, portable, rest, delimited => by
    have later := tokens_encodeFields separates (next :: fields) portable.2 rest delimited
    have read := tokens_encode separates value portable.1
      (ascii (Text.ofString separators.item) ++
        (ascii (encodeFields floatText separators (next :: fields)) ++ rest)) (separates.delimits _)
    rw [encodeFields, fieldsTokens]
    simp only [ascii_append, List.append_assoc, tokens_quote, separates.key, read, separates.item,
      later, Option.map_map, Function.comp_def, List.cons_append]

end

end Lexing

/-! ## The value of the tokens -/

section Parsing

variable (depth : ℕ)

theorem parse_cons {parser next : Parser} {token : Token}
    (fed : parser.feed depth token = some next) (rest : List Token) :
    parse depth parser (token :: rest) = parse depth next rest := by
  cases parser with
  | done value => cases token <;> cases fed
  | value stack => rw [parse, fed]
  | first stack => rw [parse, fed]
  | afterItem stack items => rw [parse, fed]
  | name stack fields closable => rw [parse, fed]
  | afterName stack fields label => rw [parse, fed]
  | afterField stack fields => rw [parse, fed]

/-- The first token of a value begins it. -/
theorem valueTokens_head (value : Json) :
    ∃ token more, valueTokens value = token :: more ∧
      ∀ stack, (Parser.first stack).feed depth token =
        (Parser.value (.arr [] :: stack)).feed depth token := by
  cases value with
  | arr items => exact ⟨_, _, rfl, fun _ => rfl⟩
  | obj fields => exact ⟨_, _, rfl, fun _ => rfl⟩
  | str text => exact ⟨_, _, rfl, fun _ => rfl⟩
  | null => exact ⟨_, _, rfl, fun _ => rfl⟩
  | bool value => exact ⟨_, _, rfl, fun _ => rfl⟩
  | int value => exact ⟨_, _, rfl, fun _ => rfl⟩
  | float value => exact ⟨_, _, rfl, fun _ => rfl⟩

theorem parse_first (value : Json) (stack : List Frame) (rest : List Token) :
    parse depth (.first stack) (valueTokens value ++ rest) =
      parse depth (.value (.arr [] :: stack)) (valueTokens value ++ rest) := by
  rcases valueTokens_head depth value with ⟨token, more, same, begins⟩
  rw [same, List.cons_append, parse, parse, begins]

mutual

/-- The tokens of a value are put together to the joined value. -/
theorem parse_value :
    ∀ (value : Json) (stack : List Frame) (_ : nesting value + stack.length ≤ depth)
      (rest : List Token),
      parse depth (.value stack) (valueTokens value ++ rest) =
        parse depth (deliver (joined value) stack) rest
  | .null, _, _, rest => parse_cons depth rfl rest
  | .bool _, _, _, rest => parse_cons depth rfl rest
  | .int _, _, _, rest => parse_cons depth rfl rest
  | .float _, _, _, rest => parse_cons depth rfl rest
  | .str _, _, _, rest => parse_cons depth rfl rest
  | .arr items, stack, shallow, rest => by
    rw [nesting] at shallow
    have opens : (Parser.value stack).feed depth .openArray = some (.first stack) :=
      if_pos (by omega)
    rw [valueTokens, List.cons_append, parse_cons depth opens, List.append_assoc,
      List.singleton_append, joined]
    cases items with
    | nil => exact parse_cons depth rfl rest
    | cons item items =>
        have inside := parse_items (item :: items) (List.cons_ne_nil _ _) [] stack (by omega) rest
        rw [List.nil_append] at inside
        rw [← inside]
        cases items with
        | nil => exact parse_first depth item stack _
        | cons next items =>
            rw [itemsTokens, List.append_assoc]
            exact parse_first depth item stack _
  | .obj fields, stack, shallow, rest => by
    rw [nesting] at shallow
    have opens : (Parser.value stack).feed depth .openObject = some (.name stack [] true) :=
      if_pos (by omega)
    rw [valueTokens, List.cons_append, parse_cons depth opens, List.append_assoc,
      List.singleton_append, joined]
    cases fields with
    | nil => exact parse_cons depth rfl rest
    | cons field fields =>
        exact parse_fields (field :: fields) (List.cons_ne_nil _ _) [] true stack (by omega) rest

theorem parse_items :
    ∀ (items : List Json) (_ : items ≠ []) (read : List Json) (stack : List Frame)
      (_ : itemsNesting items + 1 + stack.length ≤ depth) (rest : List Token),
      parse depth (.value (.arr read :: stack)) (itemsTokens items ++ .closeArray :: rest) =
        parse depth (deliver (.arr (read ++ joinedItems items)) stack) rest
  | [], some_, _, _, _, _ => absurd rfl some_
  | [item], _, read, stack, shallow, rest => by
    rw [itemsNesting] at shallow
    rw [itemsTokens, parse_value item _ (by rw [List.length_cons]; omega), deliver, joinedItems,
      joinedItems]
    exact parse_cons depth rfl rest
  | item :: next :: items, _, read, stack, shallow, rest => by
    rw [itemsNesting] at shallow
    have later := parse_items (next :: items) (List.cons_ne_nil _ _) (read ++ [joined item]) stack
      (by omega) rest
    rw [itemsTokens, List.append_assoc, List.cons_append,
      parse_value item _ (by rw [List.length_cons]; omega), deliver, parse_cons depth rfl, later,
      List.append_assoc, List.singleton_append, ← joinedItems]

theorem parse_fields :
    ∀ (fields : JsonObject) (_ : fields ≠ []) (read : JsonObject) (closable : Bool)
      (stack : List Frame) (_ : fieldsNesting fields + 1 + stack.length ≤ depth)
      (rest : List Token),
      parse depth (.name stack read closable) (fieldsTokens fields ++ .closeObject :: rest) =
        parse depth (deliver (.obj (joinedFields read fields)) stack) rest
  | [], some_, _, _, _, _, _ => absurd rfl some_
  | [(name, value)], _, read, closable, stack, shallow, rest => by
    have named : (Parser.name stack read closable).feed depth (.text (joinPairs name)) =
        some (.afterName stack read (joinPairs name)) := by cases closable <;> rfl
    rw [fieldsNesting] at shallow
    rw [fieldsTokens, List.cons_append, parse_cons depth named, List.cons_append,
      parse_cons depth rfl, parse_value value _ (by rw [List.length_cons]; omega), deliver,
      joinedFields, joinedFields]
    exact parse_cons depth rfl rest
  | (name, value) :: next :: fields, _, read, closable, stack, shallow, rest => by
    have named : (Parser.name stack read closable).feed depth (.text (joinPairs name)) =
        some (.afterName stack read (joinPairs name)) := by cases closable <;> rfl
    rw [fieldsNesting] at shallow
    have later := parse_fields (next :: fields) (List.cons_ne_nil _ _)
      (setField read (joinPairs name) (joined value)) false stack (by omega) rest
    rw [fieldsTokens, List.cons_append, parse_cons depth named, List.cons_append,
      parse_cons depth rfl, List.append_assoc, List.cons_append,
      parse_value value _ (by rw [List.length_cons]; omega), deliver, parse_cons depth rfl,
      joinedFields, ← later]

end

end Parsing

/-! ## The round trip -/

/-- `json.loads` of `json.dumps`. -/
theorem loads_dumps {floatText : ℚ → Text} {separators : Separators} (separates : separators.Reads)
    {depth : ℕ} {value : Json} (portable : Portable floatText value)
    (shallow : nesting value ≤ depth) :
    loads depth (dumps floatText separators value) = some (joined value) := by
  have cut := tokens_encode separates value portable [] (fun _ impossible => by cases impossible)
  have built := parse_value depth value [] (by rw [List.length_nil]; omega) []
  rw [List.append_nil, tokens, Option.map_some] at cut
  rw [deliver, parse] at built
  rw [List.append_nil] at built
  rw [loads, dumps, if_neg, cut, Option.bind_some, List.append_nil, built]
  intro mark
  have small := ascii_small _ _ (List.mem_of_mem_head? mark)
  exact absurd small (by decide)

/-- `json.dumps`, when it does not raise: the conversion of an integer and the
nesting are limited in both directions. -/
def dumps? (floatText : ℚ → Text) (separators : Separators) (depth : ℕ) (value : Json) :
    Option Text :=
  if intsShort value = true ∧ nesting value ≤ depth then some (dumps floatText separators value)
  else none

/-- What is written is read back. -/
theorem loads_of_dumps? {floatText : ℚ → Text} {separators : Separators}
    (separates : separators.Reads) {depth : ℕ} {value : Json} {text : Text}
    (read : FloatsRead floatText value)
    (written : dumps? floatText separators depth value = some text) :
    loads depth text = some (joined value) := by
  unfold dumps? at written
  split at written
  · next writable =>
      cases written
      exact loads_dumps separates (portable_of value writable.1 read) writable.2
  · cases written

/-! ## Fields of an object that is read back -/

theorem field?_cons (entry : Text × Json) (fields : JsonObject) (name : String) :
    field? (entry :: fields) name =
      if entry.1 = Text.ofString name then some entry.2 else field? fields name := by
  unfold field?
  split_ifs with same
  · rw [List.find?_cons_of_pos (by simpa using same), Option.map_some]
  · rw [List.find?_cons_of_neg (by simpa using same)]

/-- The field that was set has its value, and the others keep theirs. -/
theorem field?_setField (fields : JsonObject) (key : Text) (value : Json) (name : String) :
    field? (setField fields key value) name =
      if key = Text.ofString name then some value else field? fields name := by
  have replaced (fields : JsonObject) :
      field? (fields.map fun entry => if entry.1 = key then (key, value) else entry) name =
        if key = Text.ofString name ∧ fields.any (fun entry => entry.1 = key) = true then some value
        else field? fields name := by
    induction fields with
    | nil => simp
    | cons entry fields ih =>
        rw [List.map_cons, field?_cons, ih, field?_cons, List.any_cons]
        by_cases first : entry.1 = key
        · simp only [first, if_true, decide_true, Bool.true_or, and_true]
          split_ifs <;> simp_all
        · simp only [first, if_false, decide_false, Bool.false_or]
          by_cases own : key = Text.ofString name
          · rw [own] at first
            simp [first]
          · simp [own]
  unfold setField
  split_ifs with present same same
  · rw [replaced, if_pos ⟨same, present⟩]
  · rw [replaced, if_neg fun both => same both.1]
  · induction fields with
    | nil => rw [List.nil_append, field?_cons, if_pos same]
    | cons entry fields ih =>
        rw [List.any_cons, Bool.or_eq_true, not_or] at present
        rw [List.cons_append, field?_cons, if_neg (by rw [← same]; simpa using present.1),
          ih present.2]
  · induction fields with
    | nil => rw [List.nil_append, field?_cons, if_neg same]
    | cons entry fields ih =>
        rw [List.any_cons, Bool.or_eq_true, not_or] at present
        rw [List.cons_append, field?_cons, field?_cons, ih present.2]

/-- A text that joins to one without characters beyond the basic plane is
that text. -/
theorem eq_of_joinPairs {text target : Text} (same : joinPairs text = target)
    (basic : ∀ point ∈ target, point.val < 0x10000) : text = target := by
  subst same
  induction text using joinPairs.induct with
  | case1 => rfl
  | case2 point => rfl
  | case3 high low rest pair ih =>
      rw [joinPairs_pair pair.1 pair.2] at basic
      have large := basic _ List.mem_cons_self
      rw [pairPoint_val pair.1 pair.2] at large
      omega
  | case4 high low rest apart ih =>
      rw [joinPairs, if_neg apart] at basic ⊢
      rw [← ih fun point member => basic point (List.mem_cons_of_mem _ member)]

/-- A field that the object has under one value only comes back with the joined
value. -/
theorem field?_joinedFields {fields : JsonObject} {name : String} {value : Json}
    (small : name.toList.all (fun letter => decide (letter.toNat < 0x7F)) = true)
    (present : Text.ofString name ∈ fields.map Prod.fst)
    (only : ∀ entry ∈ fields, entry.1 = Text.ofString name → entry.2 = value)
    (read : JsonObject) :
    field? (joinedFields read fields) name = some (joined value) := by
  have named (entry : Text × Json) (same : joinPairs entry.1 = Text.ofString name) :
      entry.1 = Text.ofString name :=
    eq_of_joinPairs same fun point member => (ofString_small small point member).trans (by decide)
  have kept (fields read : JsonObject)
      (only : ∀ entry ∈ fields, entry.1 = Text.ofString name → entry.2 = value)
      (before : field? read name = some (joined value)) :
      field? (joinedFields read fields) name = some (joined value) := by
    induction fields generalizing read with
    | nil => exact before
    | cons entry fields ih =>
        rw [joinedFields]
        apply ih _ (fun other member => only other (List.mem_cons_of_mem _ member))
        rw [field?_setField]
        split_ifs with same
        · rw [only entry List.mem_cons_self (named entry same)]
        · exact before
  induction fields generalizing read with
  | nil => cases present
  | cons entry fields ih =>
      have later (other : Text × Json) (member : other ∈ fields) :=
        only other (List.mem_cons_of_mem _ member)
      rw [List.map_cons, List.mem_cons] at present
      rw [joinedFields]
      by_cases first : entry.1 = Text.ofString name
      · have whole : joinPairs (Text.ofString name) = Text.ofString name :=
          joinPairs_of_isEncodable (Text.isEncodable_ofString name)
        apply kept fields _ later
        rw [field?_setField, first, whole, if_pos rfl, only entry List.mem_cons_self first]
      · exact ih (present.resolve_left (Ne.symm first)) later _

end Json

end Library
