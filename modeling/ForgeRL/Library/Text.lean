import Mathlib.Data.List.Basic
import Mathlib.Data.List.DropRight

/-!
# Texts of code points

A text is a list of code points, as in a language whose strings are sequences
of code points: a lone surrogate is an ordinary member, and only the encoding
to UTF-8 refuses it.
-/

namespace Library

abbrev CodePoint := Fin 1114112

abbrev Text := List CodePoint

instance : LawfulBEq Text := inferInstance

theorem Char.toNat_lt (letter : Char) : letter.toNat < 1114112 := by
  rcases letter.valid with low | high
  · exact Nat.lt_trans low (by decide)
  · exact high.2

/-- The code point of a number below 0x110000. -/
def CodePoint.ofNat (value : ℕ) : CodePoint :=
  ⟨value % 1114112, Nat.mod_lt value (by decide)⟩

namespace Text

def ofString (source : String) : Text :=
  source.toList.map (fun letter => ⟨letter.toNat, Char.toNat_lt letter⟩)

theorem ofString_inj {first second : String} :
    ofString first = ofString second ↔ first = second := by
  refine ⟨fun same => ?_, congrArg ofString⟩
  refine String.toList_injective (List.map_injective_iff.mpr ?_ same)
  intro letter other equal
  have number : letter.toNat = other.toNat := Fin.mk.inj equal
  exact Char.toNat_inj.mp number

def IsSurrogate (point : CodePoint) : Prop := 0xD800 ≤ point.val ∧ point.val ≤ 0xDFFF

instance (point : CodePoint) : Decidable (IsSurrogate point) :=
  inferInstanceAs (Decidable (_ ∧ _))

/-- The number of UTF-8 bytes of a code point. -/
def utf8Size (point : CodePoint) : ℕ :=
  if point.val < 0x80 then 1
  else if point.val < 0x800 then 2
  else if point.val < 0x10000 then 3
  else 4

/-- The number of bytes of a text. -/
def size : Text → ℕ
  | [] => 0
  | point :: rest => utf8Size point + size rest

/-- A text that UTF-8 can encode. -/
def isEncodable (text : Text) : Bool := text.all (fun point => !decide (IsSurrogate point))

theorem isEncodable_append (first second : Text) :
    isEncodable (first ++ second) = (isEncodable first && isEncodable second) :=
  List.all_append

/-- A string of the host language has no lone surrogates. -/
theorem isEncodable_ofString (source : String) : isEncodable (ofString source) = true := by
  rw [isEncodable, ofString, List.all_map, List.all_eq_true]
  intro letter _
  have valid := letter.valid
  have plain : ¬ IsSurrogate ⟨letter.toNat, Char.toNat_lt letter⟩ := by
    rintro ⟨low, high⟩
    rcases valid with before | after
    · exact absurd before (Nat.not_lt.mpr low)
    · exact absurd after.1 (Nat.not_lt.mpr high)
  rw [Function.comp_apply, decide_eq_false plain]
  rfl

/-- The length of the encoded text; a lone surrogate cannot be encoded. -/
def encodedLength? (text : Text) : Option ℕ :=
  if isEncodable text then some (size text) else none

/-- What is left of a text when its encoding is cut after some bytes and
decoded again without the incomplete character at its end. -/
def takeBytes : ℕ → Text → Text
  | _, [] => []
  | limit, point :: rest =>
    if utf8Size point ≤ limit then point :: takeBytes (limit - utf8Size point) rest else []

/-- `str.isspace` of a character. -/
def isSpace (point : CodePoint) : Bool :=
  decide ((0x09 ≤ point.val ∧ point.val ≤ 0x0D) ∨ (0x1C ≤ point.val ∧ point.val ≤ 0x20) ∨
    point.val = 0x85 ∨ point.val = 0xA0 ∨ point.val = 0x1680 ∨
    (0x2000 ≤ point.val ∧ point.val ≤ 0x200A) ∨ point.val = 0x2028 ∨ point.val = 0x2029 ∨
    point.val = 0x202F ∨ point.val = 0x205F ∨ point.val = 0x3000)

def rstrip (text : Text) : Text := text.rdropWhile isSpace

def strip (text : Text) : Text := rstrip (text.dropWhile isSpace)

def newline : Text := ofString "\n"

theorem isEncodable_reverse (text : Text) : isEncodable text.reverse = isEncodable text :=
  List.all_reverse

/-- White space is encodable, so stripping it decides nothing. -/
theorem isEncodable_rstrip (text : Text) : isEncodable (rstrip text) = isEncodable text := by
  have blank : isEncodable (text.reverse.takeWhile isSpace) = true := by
    rw [isEncodable, List.all_eq_true]
    intro point member
    have space : isSpace point = true := List.mem_takeWhile_imp member
    rw [isSpace, decide_eq_true_iff] at space
    have plain : ¬ IsSurrogate point := by
      rintro ⟨low, high⟩
      omega
    rw [decide_eq_false plain]
    rfl
  rw [← isEncodable_reverse text, ← @List.takeWhile_append_dropWhile _ isSpace text.reverse,
    isEncodable_append, blank, Bool.true_and, rstrip, List.rdropWhile, isEncodable_reverse]

theorem rstrip_last {text : Text} {point : CodePoint} (last : (rstrip text).getLast? = some point) :
    isSpace point = false := by
  rcases List.getLast?_eq_some_iff.mp last with ⟨before, same⟩
  have filled : rstrip text ≠ [] := by
    rw [same]
    exact List.append_ne_nil_of_right_ne_nil _ (List.cons_ne_nil _ _)
  have stripped : ¬ isSpace ((rstrip text).getLast filled) = true :=
    List.rdropWhile_last_not isSpace text filled
  rw [List.getLast_eq_iff_getLast?_eq_some filled |>.mpr last] at stripped
  exact Bool.not_eq_true _ ▸ stripped

end Text

end Library
