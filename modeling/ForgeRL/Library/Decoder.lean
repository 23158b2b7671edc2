import ForgeRL.Library.Json
import ForgeRL.Library.Rounding

namespace Library

/-!
# Decoding JSON texts

The decoder works in two passes.  The first cuts a text into tokens: strings
are read with their escapes, and what stands between punctuation, quotes and
white space is a word, which has to be a number or one of the six names.  Two
escapes that form a surrogate pair are one character; a half of a pair stays.
The second pass keeps a stack of the containers that are open.

Three texts are refused that the grammar accepts: an integer with more digits
than the conversion takes, a text that is nested deeper than the interpreter
allows, and one that begins with a byte order mark.
-/

namespace Json

/-! ## Numbers and names -/

def isDigit (point : CodePoint) : Bool := decide (48 ≤ point.val ∧ point.val ≤ 57)

def digitsValue (digits : Text) : ℕ :=
  digits.foldl (fun value digit => 10 * value + (digit.val - 48)) 0

/-- The largest number of digits that `int` converts. -/
def maxDigits : ℕ := 4300

/-- The digits after a point, if there is one. -/
def readFraction : Text → Option (Text × Text)
  | [] => some ([], [])
  | point :: rest =>
    if point.val ≠ 0x2E then some ([], point :: rest)
    else if (rest.takeWhile isDigit).isEmpty then none
    else some (rest.takeWhile isDigit, rest.dropWhile isDigit)

/-- The exponent at the end of a number, if there is one. -/
def readExponent : Text → Option (Option ℤ)
  | [] => some none
  | letter :: rest =>
    if letter.val ≠ 0x65 ∧ letter.val ≠ 0x45 then none
    else
      let digits := match rest with
        | sign :: more => if sign.val = 0x2B ∨ sign.val = 0x2D then more else rest
        | [] => []
      let negative := match rest with
        | sign :: _ => decide (sign.val = 0x2D)
        | [] => false
      if digits.isEmpty ∨ ¬ digits.all isDigit then none
      else some (some (if negative then -(digitsValue digits : ℤ) else digitsValue digits))

/-- The float nearest to a decimal number. -/
def decimalFloat (negative : Bool) (whole fraction : Text) (exponent : ℤ) : JsonFloat :=
  let magnitude : ℚ :=
    digitsValue (whole ++ fraction) * (10 : ℚ) ^ (exponent - fraction.length)
  match Binary64.round? (if negative then -magnitude else magnitude) with
  | some value => .finite value
  | none => .infinity negative

def unsignedNumber (negative : Bool) (word : Text) : Option Json :=
  let whole := word.takeWhile isDigit
  if whole.isEmpty ∨ (whole.head? = some (CodePoint.ofNat 48) ∧ 1 < whole.length) then none
  else
    match readFraction (word.dropWhile isDigit) with
    | none => none
    | some (fraction, rest) =>
      match readExponent rest with
      | none => none
      | some exponent =>
        if fraction.isEmpty ∧ exponent = none then
          if maxDigits < whole.length then none
          else some (.int (if negative then -(digitsValue whole : ℤ) else digitsValue whole))
        else some (.float (decimalFloat negative whole fraction (exponent.getD 0)))

def number (word : Text) : Option Json :=
  match word with
  | sign :: rest => if sign.val = 0x2D then unsignedNumber true rest else unsignedNumber false word
  | [] => none

def word (letters : Text) : Option Json :=
  if letters = Text.ofString "null" then some .null
  else if letters = Text.ofString "true" then some (.bool true)
  else if letters = Text.ofString "false" then some (.bool false)
  else if letters = Text.ofString "NaN" then some (.float .nan)
  else if letters = Text.ofString "Infinity" then some (.float (.infinity false))
  else if letters = Text.ofString "-Infinity" then some (.float (.infinity true))
  else number letters

/-! ## Tokens -/

inductive Token where
  | openArray
  | closeArray
  | openObject
  | closeObject
  | comma
  | colon
  | text (content : Text)
  | scalar (value : Json)

/-- Where the first pass stands.  Inside a string, `high` says that the last
character has been written as the first half of a surrogate pair. -/
inductive Lexer where
  | between
  | letters (read : Text)
  | quoted (read : Text) (high : Bool)
  | escaped (read : Text) (high : Bool)
  | unicode (read : Text) (high : Bool) (digits : List ℕ)

def isBlank (point : CodePoint) : Bool :=
  decide (point.val = 0x20 ∨ point.val = 0x09 ∨ point.val = 0x0A ∨ point.val = 0x0D)

def punctuation (point : CodePoint) : Option Token :=
  if point.val = 0x5B then some .openArray
  else if point.val = 0x5D then some .closeArray
  else if point.val = 0x7B then some .openObject
  else if point.val = 0x7D then some .closeObject
  else if point.val = 0x2C then some .comma
  else if point.val = 0x3A then some .colon
  else none

/-- A character outside of strings, after the tokens that it ends. -/
def beginToken (ended : List Token) (point : CodePoint) : List Token × Lexer :=
  if isBlank point then (ended, .between)
  else if point.val = 0x22 then (ended, .quoted [] false)
  else
    match punctuation point with
    | some token => (ended ++ [token], .between)
    | none => (ended, .letters [point])

/-- The character of a short escape. -/
def shortEscape (point : CodePoint) : Option CodePoint :=
  if point.val = 0x22 ∨ point.val = 0x5C ∨ point.val = 0x2F then some point
  else if point.val = 0x62 then some (CodePoint.ofNat 0x08)
  else if point.val = 0x66 then some (CodePoint.ofNat 0x0C)
  else if point.val = 0x6E then some (CodePoint.ofNat 0x0A)
  else if point.val = 0x72 then some (CodePoint.ofNat 0x0D)
  else if point.val = 0x74 then some (CodePoint.ofNat 0x09)
  else none

def hexValue (point : CodePoint) : Option ℕ :=
  if 48 ≤ point.val ∧ point.val ≤ 57 then some (point.val - 48)
  else if 65 ≤ point.val ∧ point.val ≤ 70 then some (point.val - 55)
  else if 97 ≤ point.val ∧ point.val ≤ 102 then some (point.val - 87)
  else none

/-- A string after the escape of a code unit: the second half of a surrogate
pair joins the first. -/
def appendUnit (read : Text) (high : Bool) (unit : ℕ) : Lexer :=
  match high, read.getLast? with
  | true, some first =>
    if 0xDC00 ≤ unit ∧ unit ≤ 0xDFFF then
      .quoted (read.dropLast ++
        [CodePoint.ofNat (0x10000 + (first.val - 0xD800) * 0x400 + (unit - 0xDC00))]) false
    else .quoted (read ++ [CodePoint.ofNat unit]) (decide (0xD800 ≤ unit ∧ unit ≤ 0xDBFF))
  | _, _ => .quoted (read ++ [CodePoint.ofNat unit]) (decide (0xD800 ≤ unit ∧ unit ≤ 0xDBFF))

/-- One character of the first pass. -/
def Lexer.feed (lexer : Lexer) (point : CodePoint) : Option (List Token × Lexer) :=
  match lexer with
  | .between => some (beginToken [] point)
  | .letters read =>
    if isBlank point = true ∨ point.val = 0x22 ∨ (punctuation point).isSome = true then
      (word read).map fun value => beginToken [.scalar value] point
    else some ([], .letters (read ++ [point]))
  | .quoted read high =>
    if point.val = 0x22 then some ([.text read], .between)
    else if point.val = 0x5C then some ([], .escaped read high)
    else if point.val < 0x20 then none
    else some ([], .quoted (read ++ [point]) false)
  | .escaped read high =>
    if point.val = 0x75 then some ([], .unicode read high [])
    else (shortEscape point).map fun letter => ([], .quoted (read ++ [letter]) false)
  | .unicode read high digits =>
    match hexValue point with
    | none => none
    | some digit =>
      match digits with
      | [first, second, third] =>
        some ([], appendUnit read high (((first * 16 + second) * 16 + third) * 16 + digit))
      | _ => some ([], .unicode read high (digits ++ [digit]))

/-- The tokens of a text. -/
def tokens : Lexer → Text → Option (List Token)
  | .between, [] => some []
  | .letters read, [] => (word read).map fun value => [.scalar value]
  | _, [] => none
  | lexer, point :: rest =>
    match lexer.feed point with
    | none => none
    | some (read, next) => (tokens next rest).map fun later => read ++ later

/-! ## Containers -/

/-- A container that waits for a value. -/
inductive Frame where
  | arr (items : List Json)
  | obj (fields : JsonObject) (name : Text)

/-- Where the second pass stands. -/
inductive Parser where
  /-- A value is due. -/
  | value (stack : List Frame)
  /-- A value is due, or the end of an array without items. -/
  | first (stack : List Frame)
  | afterItem (stack : List Frame) (items : List Json)
  /-- A name is due, or the end of an object without fields. -/
  | name (stack : List Frame) (fields : JsonObject) (closable : Bool)
  | afterName (stack : List Frame) (fields : JsonObject) (name : Text)
  | afterField (stack : List Frame) (fields : JsonObject)
  | done (value : Json)

/-- A later field of the same name replaces the value of the earlier one. -/
def setField (fields : JsonObject) (name : Text) (value : Json) : JsonObject :=
  if fields.any (fun entry => entry.1 = name) then
    fields.map fun entry => if entry.1 = name then (name, value) else entry
  else fields ++ [(name, value)]

/-- Put a value into the container that has waited for it. -/
def deliver (value : Json) : List Frame → Parser
  | [] => .done value
  | .arr items :: stack => .afterItem stack (items ++ [value])
  | .obj fields name :: stack => .afterField stack (setField fields name value)

section Nested

variable (depth : ℕ)

/-- The beginning of a value. -/
def beginValue (stack : List Frame) (token : Token) : Option Parser :=
  match token with
  | .text content => some (deliver (.str content) stack)
  | .scalar value => some (deliver value stack)
  | .openArray => if stack.length < depth then some (.first stack) else none
  | .openObject => if stack.length < depth then some (.name stack [] true) else none
  | _ => none

/-- One token of the second pass. -/
def Parser.feed (parser : Parser) (token : Token) : Option Parser :=
  match parser, token with
  | .value stack, token => beginValue depth stack token
  | .first stack, .closeArray => some (deliver (.arr []) stack)
  | .first stack, token => beginValue depth (.arr [] :: stack) token
  | .afterItem stack items, .comma => some (.value (.arr items :: stack))
  | .afterItem stack items, .closeArray => some (deliver (.arr items) stack)
  | .name stack fields _, .text label => some (.afterName stack fields label)
  | .name stack fields true, .closeObject => some (deliver (.obj fields) stack)
  | .afterName stack fields label, .colon => some (.value (.obj fields label :: stack))
  | .afterField stack fields, .comma => some (.name stack fields false)
  | .afterField stack fields, .closeObject => some (deliver (.obj fields) stack)
  | _, _ => none

/-- The value of a list of tokens. -/
def parse : Parser → List Token → Option Json
  | .done value, [] => some value
  | _, [] => none
  | parser, token :: rest =>
    match parser.feed depth token with
    | none => none
    | some next => parse next rest

/-- `json.loads` of a text, when it does not raise; `depth` is how deep the
interpreter lets containers nest. -/
def loads (text : Text) : Option Json :=
  if text.head? = some (CodePoint.ofNat 0xFEFF) then none
  else (tokens .between text).bind (parse depth (.value []))

end Nested

end Json

end Library
