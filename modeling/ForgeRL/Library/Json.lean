import ForgeRL.Library.Text
import Mathlib.Data.Rat.Defs

namespace Library

/-!
# JSON values

A decoded JSON value keeps integers and floats apart, and a float may be one
of the three values that are not numbers in the standard but are accepted by
many decoders.  Objects keep the order of their fields; a lookup reads the
first field of a name.

The encoder is the one with literal non-ASCII characters.  The text of a finite
float is a parameter, because the shortest representation that reads back to
the same float is the number formatter's business.
-/

inductive JsonFloat where
  | finite (value : ℚ)
  | nan
  | infinity (negative : Bool)
deriving DecidableEq, Repr

inductive Json where
  | null
  | bool (value : Bool)
  | int (value : ℤ)
  | float (value : JsonFloat)
  | str (text : Text)
  | arr (items : List Json)
  | obj (fields : List (Text × Json))
deriving Repr

/-- The fields of an object. -/
abbrev JsonObject := List (Text × Json)

namespace Json

/-- The value of a field, for a name written in the program. -/
def field? (fields : JsonObject) (name : String) : Option Json :=
  (fields.find? (fun entry => entry.1 = Text.ofString name)).map Prod.snd

/-- The value of a field, where `null` counts as missing. -/
def get? (fields : JsonObject) (name : String) : Option Json :=
  match field? fields name with
  | some .null => none
  | value => value

/-- An object literal of the program. -/
def object (fields : List (String × Json)) : Json :=
  .obj (fields.map (fun entry => (Text.ofString entry.1, entry.2)))

def string (source : String) : Json := .str (Text.ofString source)

/-- The values that count as false. -/
def isFalsy : Json → Bool
  | .null => true
  | .bool value => !value
  | .int value => value = 0
  | .float (.finite value) => value = 0
  | .float _ => false
  | .str text => text.isEmpty
  | .arr items => items.isEmpty
  | .obj fields => fields.isEmpty

/-! ## The encoder -/

def hexDigit (digit : ℕ) : CodePoint :=
  if digit < 10 then Fin.ofNat _ (48 + digit) else Fin.ofNat _ (87 + digit)

/-- A character inside a string literal. -/
def escape (point : CodePoint) : Text :=
  if point.val = 0x22 then Text.ofString "\\\""
  else if point.val = 0x5C then Text.ofString "\\\\"
  else if point.val = 0x0A then Text.ofString "\\n"
  else if point.val = 0x0D then Text.ofString "\\r"
  else if point.val = 0x09 then Text.ofString "\\t"
  else if point.val = 0x0C then Text.ofString "\\f"
  else if point.val = 0x08 then Text.ofString "\\b"
  else if point.val < 0x20 then
    Text.ofString "\\u00" ++ [hexDigit (point.val / 16), hexDigit (point.val % 16)]
  else [point]

def quote (text : Text) : Text :=
  Text.ofString "\"" ++ text.flatMap escape ++ Text.ofString "\""

/-- The two separators of an encoder. -/
structure Separators where
  item : String
  key : String

def defaultSeparators : Separators := ⟨", ", ": "⟩

def compactSeparators : Separators := ⟨",", ":"⟩

section Encoder

variable (floatText : ℚ → Text) (separators : Separators)

mutual

def encode : Json → Text
  | .null => Text.ofString "null"
  | .bool true => Text.ofString "true"
  | .bool false => Text.ofString "false"
  | .int value => Text.ofString (toString value)
  | .float (.finite value) => floatText value
  | .float .nan => Text.ofString "NaN"
  | .float (.infinity false) => Text.ofString "Infinity"
  | .float (.infinity true) => Text.ofString "-Infinity"
  | .str text => quote text
  | .arr items => Text.ofString "[" ++ encodeItems items ++ Text.ofString "]"
  | .obj fields => Text.ofString "\x7b" ++ encodeFields fields ++ Text.ofString "\x7d"

def encodeItems : List Json → Text
  | [] => []
  | [item] => encode item
  | item :: next :: items =>
    encode item ++ Text.ofString separators.item ++ encodeItems (next :: items)

def encodeFields : JsonObject → Text
  | [] => []
  | [(name, value)] => quote name ++ Text.ofString separators.key ++ encode value
  | (name, value) :: next :: fields =>
    quote name ++ Text.ofString separators.key ++ encode value ++
      Text.ofString separators.item ++ encodeFields (next :: fields)

end

end Encoder

mutual

/-- No float of the value is NaN or infinite. -/
def isStandard : Json → Bool
  | .float (.finite _) => true
  | .float _ => false
  | .arr items => areStandard items
  | .obj fields => fieldsStandard fields
  | _ => true

def areStandard : List Json → Bool
  | [] => true
  | item :: items => isStandard item && areStandard items

def fieldsStandard : JsonObject → Bool
  | [] => true
  | (_, value) :: fields => isStandard value && fieldsStandard fields

end

/-- A test of lists that takes the items one by one is a test of every item. -/
theorem forall_iff_of_cons {α : Type*} (every : List α → Prop) {each : α → Prop}
    (nil : every []) (cons : ∀ item items, every (item :: items) ↔ each item ∧ every items)
    {items : List α} : every items ↔ ∀ item ∈ items, each item := by
  induction items with
  | nil => exact iff_of_true nil fun _ member => absurd member List.not_mem_nil
  | cons item items ih => rw [cons, ih, List.forall_mem_cons]

theorem areStandard_iff {items : List Json} :
    areStandard items = true ↔ ∀ item ∈ items, isStandard item = true := by
  refine forall_iff_of_cons (fun items => areStandard items = true) rfl fun _ _ => ?_
  rw [areStandard, Bool.and_eq_true]

theorem fieldsStandard_iff {fields : JsonObject} :
    fieldsStandard fields = true ↔ ∀ field ∈ fields, isStandard field.2 = true := by
  refine forall_iff_of_cons (fun fields => fieldsStandard fields = true) rfl fun _ _ => ?_
  rw [fieldsStandard, Bool.and_eq_true]

mutual

/-- No string of the value, and no name in it, has a lone surrogate. -/
def isEncodable : Json → Bool
  | .str text => Text.isEncodable text
  | .arr items => areEncodable items
  | .obj fields => fieldsEncodable fields
  | _ => true

def areEncodable : List Json → Bool
  | [] => true
  | item :: items => isEncodable item && areEncodable items

def fieldsEncodable : JsonObject → Bool
  | [] => true
  | (name, value) :: fields =>
    Text.isEncodable name && (isEncodable value && fieldsEncodable fields)

end

/-! ## When the encoded text is valid Unicode -/

section Encodable

variable {floatText : ℚ → Text} {separators : Separators}

theorem isEncodable_hexDigit (digit : ℕ) (small : digit < 16) :
    ¬ Text.IsSurrogate (hexDigit digit) := by
  unfold hexDigit Text.IsSurrogate
  split_ifs <;> simp only [Fin.ofNat] <;> omega

theorem isEncodable_escape (point : CodePoint) :
    Text.isEncodable (escape point) = !decide (Text.IsSurrogate point) := by
  have plain (below : point.val < 0xD800) : (!decide (Text.IsSurrogate point)) = true := by
    rw [decide_eq_false (fun surrogate => absurd surrogate.1 (Nat.not_le.mpr below))]
    rfl
  have literal (source : String) (below : point.val < 0xD800) :
      Text.isEncodable (Text.ofString source) = !decide (Text.IsSurrogate point) :=
    (Text.isEncodable_ofString source).trans (plain below).symm
  unfold escape
  split_ifs
  · exact literal _ (by omega)
  · exact literal _ (by omega)
  · exact literal _ (by omega)
  · exact literal _ (by omega)
  · exact literal _ (by omega)
  · exact literal _ (by omega)
  · exact literal _ (by omega)
  · have first := isEncodable_hexDigit (point.val / 16) (by omega)
    have second := isEncodable_hexDigit (point.val % 16) (by omega)
    rw [plain (by omega), Text.isEncodable_append, Text.isEncodable_ofString, Bool.true_and]
    simp only [Text.isEncodable, List.all_cons, List.all_nil, first, second, decide_false,
      Bool.not_false, Bool.and_true]
  · simp only [Text.isEncodable, List.all_cons, List.all_nil, Bool.and_true]

theorem isEncodable_quote (text : Text) :
    Text.isEncodable (quote text) = Text.isEncodable text := by
  have escaped : Text.isEncodable (text.flatMap escape) = Text.isEncodable text := by
    induction text with
    | nil => rfl
    | cons point rest ih =>
      rw [List.flatMap_cons, Text.isEncodable_append, ih, isEncodable_escape]
      rfl
  simp only [quote, Text.isEncodable_append, Text.isEncodable_ofString, escaped, Bool.true_and,
    Bool.and_true]

mutual

/-- The encoder adds no lone surrogates, and escapes none away. -/
theorem isEncodable_encode (ascii : ∀ value, Text.isEncodable (floatText value) = true) :
    ∀ value, Text.isEncodable (encode floatText separators value) = isEncodable value
  | .null => Text.isEncodable_ofString _
  | .bool true => Text.isEncodable_ofString _
  | .bool false => Text.isEncodable_ofString _
  | .int _ => Text.isEncodable_ofString _
  | .float (.finite value) => ascii value
  | .float .nan => Text.isEncodable_ofString _
  | .float (.infinity false) => Text.isEncodable_ofString _
  | .float (.infinity true) => Text.isEncodable_ofString _
  | .str text => isEncodable_quote text
  | .arr items => by
    simp only [encode, isEncodable, Text.isEncodable_append, Text.isEncodable_ofString,
      areEncodable_encode ascii items, Bool.true_and, Bool.and_true]
  | .obj fields => by
    simp only [encode, isEncodable, Text.isEncodable_append, Text.isEncodable_ofString,
      fieldsEncodable_encode ascii fields, Bool.true_and, Bool.and_true]

theorem areEncodable_encode (ascii : ∀ value, Text.isEncodable (floatText value) = true) :
    ∀ items, Text.isEncodable (encodeItems floatText separators items) = areEncodable items
  | [] => rfl
  | [item] => by
    simp only [encodeItems, areEncodable, isEncodable_encode ascii item, Bool.and_true]
  | item :: next :: items => by
    have rest := areEncodable_encode ascii (next :: items)
    rw [encodeItems, areEncodable]
    simp only [Text.isEncodable_append, Text.isEncodable_ofString, rest,
      isEncodable_encode ascii item, Bool.and_true]

theorem fieldsEncodable_encode (ascii : ∀ value, Text.isEncodable (floatText value) = true) :
    ∀ fields, Text.isEncodable (encodeFields floatText separators fields) = fieldsEncodable fields
  | [] => rfl
  | [(name, value)] => by
    simp only [encodeFields, fieldsEncodable, Text.isEncodable_append, Text.isEncodable_ofString,
      isEncodable_quote, isEncodable_encode ascii value, Bool.and_true]
  | (name, value) :: next :: fields => by
    have rest := fieldsEncodable_encode ascii (next :: fields)
    rw [encodeFields, fieldsEncodable]
    simp only [Text.isEncodable_append, Text.isEncodable_ofString, rest, isEncodable_quote,
      isEncodable_encode ascii value, Bool.and_true, Bool.and_assoc]

end

end Encodable

end Json

end Library
