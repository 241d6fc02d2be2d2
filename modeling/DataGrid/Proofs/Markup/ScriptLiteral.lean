import DataGrid.Markup.Script
import DataGrid.Numeric.Digits

/-!
# Literals of scripts

A single-quoted string of JavaScript holds characters and escape sequences. A backslash begins an
escape sequence, and line feeds and carriage returns stand in one or nowhere. The body that is
quoted for a text has no other escape sequences than those of its backslashes and single quotes. It
keeps the line breaks of the text as they are, and so it is the body of a string just where the text
has none.

## Main definitions

* `isLineBreak`: the characters that end a line of a script
* `IsEscapeSequence`, `IsLiteralBody`: the grammar of what stands between the quotes

## Main results

* `isLiteralBody_slash_iff`: what stands behind a backslash
* `isLiteralBody_quoteChars_iff`: which texts are quoted to a body
-/

namespace DataGrid.Markup

open Numeric (hexDigit?)

/-! ## The grammar -/

/-- Whether a line of a script ends at a character, also inside a string. -/
def isLineBreak (c : Char) : Bool := c == '\n' || c == '\r'

/-- **Escape sequence**, without the backslash in front of it. A character behind a backslash stands
for itself or for a control character, continues the string on the next line, or begins an octal
number, whose other digits are read as characters here. An `x` or a `u` begins a number of
hexadecimal digits. -/
inductive IsEscapeSequence : List Char → Prop
  | character {c : Char} (hbyte : c ≠ 'x') (hunit : c ≠ 'u') : IsEscapeSequence [c]
  | lineEnd : IsEscapeSequence ['\r', '\n']
  | byte {digits : List Char} (hlength : digits.length = 2)
      (hdigits : ∀ c ∈ digits, (hexDigit? c).isSome) : IsEscapeSequence ('x' :: digits)
  | unit {digits : List Char} (hlength : digits.length = 4)
      (hdigits : ∀ c ∈ digits, (hexDigit? c).isSome) : IsEscapeSequence ('u' :: digits)
  | codePoint {digits : List Char} (hne : digits ≠ [])
      (hdigits : ∀ c ∈ digits, (hexDigit? c).isSome)
      (hbound : digits.foldl (fun n c => n * 16 + (hexDigit? c).getD 0) 0 ≤ 0x10ffff) :
      IsEscapeSequence ('u' :: '\x7b' :: (digits ++ ['\x7d']))

/-- **Body of a literal.** What may stand between two single quotes of a script. -/
inductive IsLiteralBody : List Char → Prop
  | nil : IsLiteralBody []
  | plain {c : Char} {s : List Char} (hslash : c ≠ '\\') (hquote : c ≠ '\'')
      (hline : ¬ isLineBreak c) (h : IsLiteralBody s) : IsLiteralBody (c :: s)
  | escape {e s : List Char} (he : IsEscapeSequence e) (h : IsLiteralBody s) :
      IsLiteralBody ('\\' :: (e ++ s))

variable {c : Char} {s : List Char}

/-! ## One step -/

/-- A character that is no backslash stands for itself. -/
theorem isLiteralBody_plain_iff (hslash : c ≠ '\\') :
    IsLiteralBody (c :: s) ↔ c ≠ '\'' ∧ ¬ isLineBreak c ∧ IsLiteralBody s := by
  constructor
  · intro h
    cases h with
    | plain _ hquote hline h => exact ⟨hquote, hline, h⟩
    | escape => exact absurd rfl hslash
  · rintro ⟨hquote, hline, h⟩
    exact .plain hslash hquote hline h

/-- Behind a backslash stands an escape sequence. -/
theorem isLiteralBody_slash_iff :
    IsLiteralBody ('\\' :: s) ↔ ∃ e rest, s = e ++ rest ∧ IsEscapeSequence e ∧ IsLiteralBody rest := by
  constructor
  · intro h
    cases h with
    | plain hslash => exact absurd rfl hslash
    | escape he h => exact ⟨_, _, rfl, he, h⟩
  · rintro ⟨e, rest, rfl, he, h⟩
    exact .escape he h

/-- A backslash or a quote behind a backslash is an escape sequence by itself. -/
theorem isLiteralBody_escaped_iff (hc : c = '\\' ∨ c = '\'') :
    IsLiteralBody ('\\' :: c :: s) ↔ IsLiteralBody s := by
  rw [isLiteralBody_slash_iff]
  constructor
  · rintro ⟨e, rest, hsplit, he, h⟩
    cases he with
    | character =>
      obtain ⟨-, rfl⟩ := List.cons.inj hsplit
      exact h
    | lineEnd | byte | unit | codePoint =>
      -- neither character begins a longer sequence
      obtain ⟨rfl, -⟩ := List.cons.inj hsplit
      rcases hc with hc | hc <;> cases hc
  · intro h
    refine ⟨[c], s, rfl, .character ?_ ?_, h⟩
    · rintro rfl
      rcases hc with hc | hc <;> cases hc
    · rintro rfl
      rcases hc with hc | hc <;> cases hc

/-! ## Quoted texts -/

/-- What is quoted for a character can be put in front of a body, unless it is a line break. -/
theorem isLiteralBody_quoteChar_append_iff :
    IsLiteralBody (quoteChar c ++ s) ↔ ¬ isLineBreak c ∧ IsLiteralBody s := by
  unfold quoteChar
  split
  · exact (isLiteralBody_escaped_iff (.inl rfl)).trans (and_iff_right (by decide)).symm
  · exact (isLiteralBody_escaped_iff (.inr rfl)).trans (and_iff_right (by decide)).symm
  · rename_i hslash hquote
    exact (isLiteralBody_plain_iff hslash).trans (and_iff_right hquote)

/-- **Quoted texts.** A text is quoted to the body of a literal just where it has no line break. -/
theorem isLiteralBody_quoteChars_iff (s : List Char) :
    IsLiteralBody (quoteChars s) ↔ ∀ c ∈ s, ¬ isLineBreak c := by
  induction s with
  | nil => exact iff_of_true .nil (by simp)
  | cons c s ih =>
    rw [quoteChars, List.flatMap_cons, isLiteralBody_quoteChar_append_iff, ← quoteChars, ih]
    simp

end DataGrid.Markup
