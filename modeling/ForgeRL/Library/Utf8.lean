import ForgeRL.Library.Text
import Mathlib.Tactic.SplitIfs

namespace Library

/-!
# Cutting UTF-8 bytes

A text is encoded, cut after some bytes, and decoded again by a decoder that
skips what is not UTF-8.  The decoder is a machine over bytes: inside a
character it remembers how many bytes are owed and the range of the next one,
and a byte outside of that range begins anew.  On a cut encoding the machine
yields `Text.takeBytes`: it loses the character that has been cut, and nothing
else.
-/

namespace Utf8

/-- The bytes of a code point. -/
def bytes (point : CodePoint) : List ℕ :=
  if point.val < 0x80 then [point.val]
  else if point.val < 0x800 then [0xC0 + point.val / 64, 0x80 + point.val % 64]
  else if point.val < 0x10000 then
    [0xE0 + point.val / 4096, 0x80 + point.val / 64 % 64, 0x80 + point.val % 64]
  else
    [0xF0 + point.val / 262144, 0x80 + point.val / 4096 % 64, 0x80 + point.val / 64 % 64,
      0x80 + point.val % 64]

def encode (text : Text) : List ℕ := text.flatMap bytes

/-- The inside of a character. -/
structure Pending where
  owed : ℕ
  value : ℕ
  low : ℕ
  high : ℕ

/-- The first byte of a longer character.  Overlong forms, surrogates and
values from 0x110000 on are excluded by the range of the second byte. -/
def lead (byte : ℕ) : Option Pending :=
  if 0xC2 ≤ byte ∧ byte ≤ 0xDF then some ⟨1, byte - 0xC0, 0x80, 0xBF⟩
  else if byte = 0xE0 then some ⟨2, 0, 0xA0, 0xBF⟩
  else if byte = 0xED then some ⟨2, 13, 0x80, 0x9F⟩
  else if 0xE1 ≤ byte ∧ byte ≤ 0xEF then some ⟨2, byte - 0xE0, 0x80, 0xBF⟩
  else if byte = 0xF0 then some ⟨3, 0, 0x90, 0xBF⟩
  else if byte = 0xF4 then some ⟨3, 4, 0x80, 0x8F⟩
  else if 0xF1 ≤ byte ∧ byte ≤ 0xF3 then some ⟨3, byte - 0xF0, 0x80, 0xBF⟩
  else none

/-- A byte between characters. -/
def first (byte : ℕ) : Text × Option Pending :=
  if byte < 0x80 then ([CodePoint.ofNat byte], none) else ([], lead byte)

/-- The bytes of an interrupted character are skipped; the byte that has
interrupted it is not. -/
def feed : Option Pending → ℕ → Text × Option Pending
  | none, byte => first byte
  | some inside, byte =>
    if inside.low ≤ byte ∧ byte ≤ inside.high then
      if inside.owed = 1 then ([CodePoint.ofNat (inside.value * 64 + byte % 64)], none)
      else ([], some ⟨inside.owed - 1, inside.value * 64 + byte % 64, 0x80, 0xBF⟩)
    else first byte

/-- An incomplete character at the end is skipped as well. -/
def decodeFrom : Option Pending → List ℕ → Text
  | _, [] => []
  | inside, byte :: rest => (feed inside byte).1 ++ decodeFrom (feed inside byte).2 rest

/-- `bytes.decode("utf-8", errors="ignore")` -/
def decodeIgnore (source : List ℕ) : Text := decodeFrom none source

/-! ## One character -/

section Character

variable {point : CodePoint}

theorem length_bytes (point : CodePoint) : (bytes point).length = Text.utf8Size point := by
  unfold bytes Text.utf8Size
  split_ifs <;> rfl

theorem feed_inside {inside : Pending} {byte : ℕ} (more : inside.owed ≠ 1)
    (low : inside.low ≤ byte) (high : byte ≤ inside.high) :
    feed (some inside) byte =
      ([], some ⟨inside.owed - 1, inside.value * 64 + byte % 64, 0x80, 0xBF⟩) := by
  simp only [feed, low, high, and_self, if_true, more, if_false]

theorem feed_last {inside : Pending} {byte : ℕ} (last : inside.owed = 1)
    (low : inside.low ≤ byte) (high : byte ≤ inside.high) :
    feed (some inside) byte = ([CodePoint.ofNat (inside.value * 64 + byte % 64)], none) := by
  simp only [feed, low, high, and_self, if_true, last]

/-- What a machine has still to read of a character. -/
inductive Completes (point : CodePoint) : Option Pending → List ℕ → Prop where
  | last {inside : Option Pending} {byte : ℕ} (fed : feed inside byte = ([point], none)) :
      Completes point inside [byte]
  | next {inside later : Option Pending} {byte : ℕ} {rest : List ℕ}
      (fed : feed inside byte = ([], later)) (completes : Completes point later rest) :
      Completes point inside (byte :: rest)

theorem ofNat_eq {value : ℕ} (same : value = point.val) : CodePoint.ofNat value = point := by
  apply Fin.ext
  rw [same]
  exact Nat.mod_eq_of_lt point.isLt

theorem Completes.one {owed value low high byte : ℕ} (last : owed = 1) (above : low ≤ byte)
    (below : byte ≤ high) (same : value * 64 + byte % 64 = point.val) :
    Completes point (some ⟨owed, value, low, high⟩) [byte] := by
  apply Completes.last
  rw [feed_last last above below]
  simp only [ofNat_eq same]

theorem Completes.more {owed value low high byte : ℕ} {rest : List ℕ} (more : owed ≠ 1)
    (above : low ≤ byte) (below : byte ≤ high)
    (completes : Completes point (some ⟨owed - 1, value * 64 + byte % 64, 0x80, 0xBF⟩) rest) :
    Completes point (some ⟨owed, value, low, high⟩) (byte :: rest) :=
  .next (feed_inside more above below) completes

theorem Completes.lead {byte : ℕ} {inside : Pending} {rest : List ℕ} (large : 0x80 ≤ byte)
    (leads : lead byte = some inside) (completes : Completes point (some inside) rest) :
    Completes point none (byte :: rest) := by
  apply Completes.next _ completes
  rw [feed, first, if_neg (by omega), leads]

/-- The machine reads the bytes of every code point but a surrogate. -/
theorem bytes_completes (encodable : ¬ Text.IsSurrogate point) :
    Completes point none (bytes point) := by
  have bound := point.isLt
  have low : ¬ (0xD800 ≤ point.val ∧ point.val ≤ 0xDFFF) := encodable
  unfold bytes
  split_ifs with one two three
  · apply Completes.last
    rw [feed, first, if_pos one, ofNat_eq rfl]
  · refine @Completes.lead _ _ ⟨1, point.val / 64, 0x80, 0xBF⟩ _ (by omega) ?_
      (.one rfl (by omega) (by omega) (by omega))
    rw [Utf8.lead, if_pos (by omega), Nat.add_sub_cancel_left]
  · have last : Completes point
        (some ⟨1, point.val / 4096 * 64 + (0x80 + point.val / 64 % 64) % 64, 0x80, 0xBF⟩)
        [0x80 + point.val % 64] := .one rfl (by omega) (by omega) (by omega)
    by_cases overlong : point.val / 4096 = 0
    · refine @Completes.lead _ _ ⟨2, point.val / 4096, 0xA0, 0xBF⟩ _ (by omega) ?_
        (.more (by decide) (by omega) (by omega) last)
      rw [Utf8.lead, if_neg (by omega), if_pos (by omega), overlong]
    · by_cases near : point.val / 4096 = 13
      · refine @Completes.lead _ _ ⟨2, point.val / 4096, 0x80, 0x9F⟩ _ (by omega) ?_
          (.more (by decide) (by omega) (by omega) last)
        rw [Utf8.lead, if_neg (by omega), if_neg (by omega), if_pos (by omega), near]
      · refine @Completes.lead _ _ ⟨2, point.val / 4096, 0x80, 0xBF⟩ _ (by omega) ?_
          (.more (by decide) (by omega) (by omega) last)
        rw [Utf8.lead, if_neg (by omega), if_neg (by omega), if_neg (by omega), if_pos (by omega),
          Nat.add_sub_cancel_left]
  · have last : Completes point
        (some ⟨2, point.val / 262144 * 64 + (0x80 + point.val / 4096 % 64) % 64, 0x80, 0xBF⟩)
        [0x80 + point.val / 64 % 64, 0x80 + point.val % 64] :=
      .more (by decide) (by omega) (by omega) (.one rfl (by omega) (by omega) (by omega))
    by_cases overlong : point.val / 262144 = 0
    · refine @Completes.lead _ _ ⟨3, point.val / 262144, 0x90, 0xBF⟩ _ (by omega) ?_
        (.more (by decide) (by omega) (by omega) last)
      rw [Utf8.lead, if_neg (by omega), if_neg (by omega), if_neg (by omega), if_neg (by omega),
        if_pos (by omega), overlong]
    · by_cases near : point.val / 262144 = 4
      · refine @Completes.lead _ _ ⟨3, point.val / 262144, 0x80, 0x8F⟩ _ (by omega) ?_
          (.more (by decide) (by omega) (by omega) last)
        rw [Utf8.lead, if_neg (by omega), if_neg (by omega), if_neg (by omega), if_neg (by omega),
          if_neg (by omega), if_pos (by omega), near]
      · refine @Completes.lead _ _ ⟨3, point.val / 262144, 0x80, 0xBF⟩ _ (by omega) ?_
          (.more (by decide) (by omega) (by omega) last)
        rw [Utf8.lead, if_neg (by omega), if_neg (by omega), if_neg (by omega), if_neg (by omega),
          if_neg (by omega), if_neg (by omega), if_pos (by omega), Nat.add_sub_cancel_left]

theorem Completes.decode {inside : Option Pending} {source : List ℕ}
    (completes : Completes point inside source) (rest : List ℕ) :
    decodeFrom inside (source ++ rest) = point :: decodeFrom none rest := by
  induction completes with
  | last fed =>
    rw [List.singleton_append, decodeFrom, fed]
    rfl
  | next fed _ ih =>
    rw [List.cons_append, decodeFrom, fed]
    exact ih

/-- A character that is cut yields nothing. -/
theorem Completes.cut {inside : Option Pending} {source : List ℕ}
    (completes : Completes point inside source) {limit : ℕ} (short : limit < source.length) :
    decodeFrom inside (source.take limit) = [] := by
  induction completes generalizing limit with
  | last fed =>
    have none_ : limit = 0 := Nat.lt_one_iff.mp short
    rw [none_, List.take_zero, decodeFrom]
  | next fed _ ih =>
    cases limit with
    | zero => rw [List.take_zero, decodeFrom]
    | succ limit =>
      rw [List.take_succ_cons, decodeFrom, fed]
      exact ih (Nat.lt_of_succ_lt_succ short)

end Character

/-! ## Texts -/

/-- Cutting the encoding of a text and decoding it again. -/
theorem decodeIgnore_take {text : Text} (encodable : Text.isEncodable text = true) (limit : ℕ) :
    decodeIgnore ((encode text).take limit) = Text.takeBytes limit text := by
  induction text generalizing limit with
  | nil => rw [encode, List.flatMap_nil, List.take_nil, Text.takeBytes, decodeIgnore, decodeFrom]
  | cons point rest ih =>
    rw [Text.isEncodable, List.all_cons, Bool.and_eq_true] at encodable
    have plain : ¬ Text.IsSurrogate point := by simpa using encodable.1
    have completes := bytes_completes plain
    rw [encode, List.flatMap_cons, List.take_append, length_bytes, Text.takeBytes]
    split_ifs with fits
    · rw [List.take_of_length_le (length_bytes point ▸ fits), decodeIgnore, completes.decode]
      exact congrArg (point :: ·) (ih encodable.2 _)
    · have none_ : limit - Text.utf8Size point = 0 := by omega
      rw [none_, List.take_zero, List.append_nil, decodeIgnore]
      exact completes.cut (length_bytes point ▸ Nat.not_le.mp fits)

theorem takeBytes_prefix (limit : ℕ) (text : Text) : Text.takeBytes limit text <+: text := by
  induction text generalizing limit with
  | nil => exact List.prefix_rfl
  | cons point rest ih =>
    rw [Text.takeBytes]
    split_ifs
    · exact List.prefix_cons_inj point |>.mpr (ih _)
    · exact List.nil_prefix

theorem size_takeBytes_le (limit : ℕ) (text : Text) :
    Text.size (Text.takeBytes limit text) ≤ limit := by
  induction text generalizing limit with
  | nil => exact Nat.zero_le _
  | cons point rest ih =>
    rw [Text.takeBytes]
    split_ifs with fits
    · have rest_ := ih (limit - Text.utf8Size point)
      rw [Text.size]
      omega
    · exact Nat.zero_le _

end Utf8

end Library
