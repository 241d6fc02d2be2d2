import DataGrid.Numeric.Digits

/-!
# Tokens of TOML texts

## Main definitions

* `Token`, `tokens?`: the tokens of a text, unless one is broken
* `scanBasic`: a text between double quotes, with its escapes read
* `scanLiteral`, `scanLiteralLines`: a text between single quotes
* `scanWord`: a word, with the blanks inside it

## Main results

* `scanToken?_length_le`: what follows a token is no longer than what follows its first
  character
-/

namespace DataGrid.Toml

open Numeric

/-- **Token.** -/
inductive Token where
  /-- A run of characters that are not marks. Blanks may stand inside, as between a date and a
  time, but not beside a dot. Quotes may stand inside too, but not behind a dot. -/
  | word (chars : List Char)
  /-- A quoted text. -/
  | text (chars : List Char)
  /-- A text between three quotes, which may have several lines. -/
  | lines (chars : List Char)
  | equals | comma | openArray | closeArray | openTable | closeTable
  /-- Blanks inside a line, or a comment. -/
  | blank
  | newline
  deriving Repr, DecidableEq

/-- Blanks inside a line. -/
def isGap (c : Char) : Bool := c == ' ' || c == '\t'

/-- Whether a character may stand in comments and quoted texts as itself: control characters
other than the tab may not. -/
def isPlain (c : Char) : Bool := c == '\t' || (0x20 ≤ c.toNat && c.toNat != 0x7F)

/-- Whether a line ends at a character, given what follows it. -/
def endsLine (c : Char) (s : List Char) : Bool :=
  c == '\n' || (c == '\r' && s.head? == some '\n')

/-- Whether a character may stand inside a word. -/
def isWordChar (c : Char) : Bool :=
  !(isGap c || ['\n', '\r', '=', ',', '[', ']', '\x7b', '\x7d', '#'].contains c)

/-- Whether a character opens a quoted text, unless it stands inside a word. -/
def isQuote (c : Char) : Bool := c == '"' || c == '\''

/-! ## Quoted texts -/

/-- The text and what follows it, with one more character in front of the text. -/
def put (c : Char) (r : List Char × List Char) : List Char × List Char := (c :: r.1, r.2)

/-- Up to two quotes that stand before the three closing ones belong to the text. -/
def surplusQuotes (quote : Char) (s : List Char) : List Char × List Char :=
  let more := (s.take 2).takeWhile (· = quote)
  (more, s.drop more.length)

/-- What a text between double quotes is in the middle of. -/
inductive Pending where
  | nothing
  | backslash
  /-- Hexadecimal digits, with the count of those still to come and their value so far. -/
  | digits (left value : Nat)
  /-- Blanks between a backslash and the end of its line. -/
  | lineRest
  /-- Blanks and lines after a backslash at the end of a line. -/
  | lineStart
  deriving Repr, DecidableEq

/-- The character that a letter after a backslash stands for. -/
def escaped? : Char → Option Char
  | '"' => some '"'
  | '\\' => some '\\'
  | 'b' => some '\x08'
  | 'e' => some '\x1b'
  | 'f' => some '\x0c'
  | 'n' => some '\n'
  | 'r' => some '\r'
  | 't' => some '\t'
  | _ => none

/-- The number of hexadecimal digits that follow a letter after a backslash. -/
def escapeDigits? : Char → Option Nat
  | 'x' => some 2
  | 'u' => some 4
  | 'U' => some 8
  | _ => none

/-- **Basic text.** The text up to its closing quote or quotes, and what follows. A backslash
at the end of a line joins the line to the next character that is not blank. -/
def scanBasic (lines : Bool) (pending : Pending) : List Char → Option (List Char × List Char)
  | [] => none
  | c :: rest =>
    let skips := isGap c || endsLine c rest
    match pending with
    | .backslash =>
      match escaped? c, escapeDigits? c with
      | some e, _ => (scanBasic lines .nothing rest).map (put e)
      | none, some count => scanBasic lines (.digits count 0) rest
      | none, none =>
        if lines && isGap c then scanBasic lines .lineRest rest
        else if lines && endsLine c rest then scanBasic lines .lineStart rest
        else none
    | .digits left value =>
      match hexDigit? c with
      | none => none
      | some digit =>
        let value := value * 16 + digit
        if 1 < left then scanBasic lines (.digits (left - 1) value) rest
        else if value.isValidChar then
          (scanBasic lines .nothing rest).map (put (Char.ofNat value))
        else none
    | .lineRest =>
      if isGap c then scanBasic lines .lineRest rest
      else if endsLine c rest then scanBasic lines .lineStart rest
      else none
    | .nothing | .lineStart =>
      if pending = .lineStart ∧ skips then scanBasic lines .lineStart rest
      else if c = '"' then
        match lines, rest with
        | false, rest => some ([], rest)
        | true, '"' :: '"' :: rest => some (surplusQuotes '"' rest)
        | true, rest => (scanBasic lines .nothing rest).map (put c)
      else if c = '\\' then scanBasic lines .backslash rest
      else if isPlain c || (lines && endsLine c rest) then
        (scanBasic lines .nothing rest).map (put c)
      else none

/-- A text up to its closing single quote, and what follows. Nothing is escaped. -/
def scanLiteral : List Char → Option (List Char × List Char)
  | [] => none
  | c :: rest =>
    if c = '\'' then some ([], rest)
    else if isPlain c then (scanLiteral rest).map (put c)
    else none

/-- A text up to its three closing single quotes, and what follows. -/
def scanLiteralLines : List Char → Option (List Char × List Char)
  | [] => none
  | '\'' :: '\'' :: '\'' :: rest => some (surplusQuotes '\'' rest)
  | c :: rest =>
    if isPlain c || endsLine c rest then (scanLiteralLines rest).map (put c) else none

/-- A text without the line end that it starts with. -/
def dropLineEnd : List Char → List Char
  | '\n' :: s => s
  | '\r' :: '\n' :: s => s
  | s => s

/-! ## Tokens -/

/-- The part of a word up to its first blank, and what follows, given the character before it.
A quote behind a dot opens the next part of a key. -/
def spanWord (before : Char) : List Char → List Char × List Char
  | [] => ([], [])
  | c :: s =>
    if isWordChar c && !(before == '.' && isQuote c) then put c (spanWord c s) else ([], c :: s)

theorem spanWord_length_le (before : Char) (s : List Char) :
    (spanWord before s).2.length ≤ s.length := by
  fun_induction spanWord before s <;> grind [put]

/-- Whether a word goes on behind blanks with a character. It does not beside a dot, because
blanks may stand around the dots of a key. -/
def goesOn (word : List Char) (c : Char) : Bool :=
  word.getLast? != some '.' && isWordChar c && !isQuote c && c != '.'

/-- **Word.** The word that starts with a character, with the blanks inside it, and what
follows. -/
def scanWord (c : Char) (s : List Char) : List Char × List Char :=
  let word := c :: (spanWord c s).1
  let rest := (spanWord c s).2
  match _h : rest.dropWhile isGap with
  | [] => (word, rest)
  | d :: after =>
    if goesOn word d then
      let more := scanWord d after
      (word ++ rest.takeWhile isGap ++ more.1, more.2)
    else (word, rest)
termination_by s.length
decreasing_by
  have hrest := spanWord_length_le c s
  have hafter : (d :: after).length ≤ (spanWord c s).2.length :=
    _h ▸ ((spanWord c s).2.dropWhile_sublist isGap).length_le
  rw [List.length_cons] at hafter
  omega

/-- The text after an opening double quote, and what follows its closing one. -/
def scanQuoted? (s : List Char) : Option (Token × List Char) :=
  match s with
  | '"' :: '"' :: rest =>
    (scanBasic true .nothing (dropLineEnd rest)).map fun r => (.lines r.1, r.2)
  | _ => (scanBasic false .nothing s).map fun r => (.text r.1, r.2)

/-- The text after an opening single quote, and what follows its closing one. -/
def scanSingleQuoted? (s : List Char) : Option (Token × List Char) :=
  match s with
  | '\'' :: '\'' :: rest =>
    (scanLiteralLines (dropLineEnd rest)).map fun r => (.lines r.1, r.2)
  | _ => (scanLiteral s).map fun r => (.text r.1, r.2)

/-- The token that starts with a character, given what follows it. -/
def scanToken? (c : Char) (s : List Char) : Option (Token × List Char) :=
  match c with
  | '=' => some (.equals, s)
  | ',' => some (.comma, s)
  | '[' => some (.openArray, s)
  | ']' => some (.closeArray, s)
  | '\x7b' => some (.openTable, s)
  | '\x7d' => some (.closeTable, s)
  | ' ' | '\t' => some (.blank, s.dropWhile isGap)
  | '#' => some (.blank, s.dropWhile isPlain)
  | '\n' => some (.newline, s)
  | '\r' =>
    match s with
    | '\n' :: rest => some (.newline, rest)
    | _ => none
  | '"' => scanQuoted? s
  | '\'' => scanSingleQuoted? s
  | c =>
    let word := scanWord c s
    some (.word word.1, word.2)

/-! ## Lengths of what follows -/

theorem surplusQuotes_length_le (quote : Char) (s : List Char) :
    (surplusQuotes quote s).2.length ≤ s.length := by
  simp [surplusQuotes]

theorem scanBasic_length_le {lines : Bool} {pending : Pending} {s : List Char}
    {r : List Char × List Char} (h : scanBasic lines pending s = some r) :
    r.2.length ≤ s.length := by
  fun_induction scanBasic lines pending s generalizing r <;>
    grind [put, Option.map_eq_some_iff, surplusQuotes_length_le]

theorem scanLiteral_length_le {s : List Char} {r : List Char × List Char}
    (h : scanLiteral s = some r) : r.2.length ≤ s.length := by
  fun_induction scanLiteral s generalizing r <;> grind [put, Option.map_eq_some_iff]

theorem scanLiteralLines_length_le {s : List Char} {r : List Char × List Char}
    (h : scanLiteralLines s = some r) : r.2.length ≤ s.length := by
  fun_induction scanLiteralLines s generalizing r <;>
    grind [put, Option.map_eq_some_iff, surplusQuotes_length_le]

theorem dropLineEnd_length_le (s : List Char) : (dropLineEnd s).length ≤ s.length := by
  unfold dropLineEnd
  split <;> grind

theorem scanWord_length_le (c : Char) (s : List Char) : (scanWord c s).2.length ≤ s.length := by
  fun_induction scanWord c s <;>
    grind [List.dropWhile_sublist, → List.Sublist.length_le, spanWord_length_le]

theorem scanQuoted?_length_le {s : List Char} {r : Token × List Char}
    (h : scanQuoted? s = some r) : r.2.length ≤ s.length := by
  unfold scanQuoted? at h
  split at h
  · rename_i rest
    obtain ⟨q, hq, rfl⟩ := Option.map_eq_some_iff.mp h
    have := scanBasic_length_le hq
    have := dropLineEnd_length_le rest
    simp only [List.length_cons]
    omega
  · obtain ⟨q, hq, rfl⟩ := Option.map_eq_some_iff.mp h
    exact scanBasic_length_le hq

theorem scanSingleQuoted?_length_le {s : List Char} {r : Token × List Char}
    (h : scanSingleQuoted? s = some r) : r.2.length ≤ s.length := by
  unfold scanSingleQuoted? at h
  split at h
  · rename_i rest
    obtain ⟨q, hq, rfl⟩ := Option.map_eq_some_iff.mp h
    have := scanLiteralLines_length_le hq
    have := dropLineEnd_length_le rest
    simp only [List.length_cons]
    omega
  · obtain ⟨q, hq, rfl⟩ := Option.map_eq_some_iff.mp h
    exact scanLiteral_length_le hq

theorem scanToken?_length_le {c : Char} {s : List Char} {r : Token × List Char}
    (h : scanToken? c s = some r) : r.2.length ≤ s.length := by
  unfold scanToken? at h
  split at h <;>
    grind [List.dropWhile_sublist, → List.Sublist.length_le, scanWord_length_le,
      → scanQuoted?_length_le, → scanSingleQuoted?_length_le]

/-- **Tokens.** The tokens of a text, unless one is broken. -/
def tokens? : List Char → Option (List Token)
  | [] => some []
  | c :: s =>
    match _h : scanToken? c s with
    | none => none
    | some (token, rest) => (tokens? rest).map (token :: ·)
termination_by s => s.length
decreasing_by
  have := scanToken?_length_le _h
  simp only [List.length_cons] at this ⊢
  omega

end DataGrid.Toml
