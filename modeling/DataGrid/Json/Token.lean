import DataGrid.Json.Value

/-!
# Tokens of JSON texts

A text is cut into tokens from the left. Cutting stops at the first token that is broken, so
the tokens of a bad text are those up to its fault.

## Main definitions

* `Fault`: why a text cannot be read as what it should be
* `Quoted`: the characters and escapes between quotes, and how they end
* `Quoted.chars`: the text that quoted characters stand for
* `Token`, `tokens`: the tokens of a text
* `quoted`: the written form of a text between quotes

## Main results

* `scanToken_length_le`: what follows a token is no longer than what follows its first
  character
-/

namespace DataGrid.Json

open Numeric (hexDigit?)

/-- **Fault.** Why a text cannot be read as what it should be. -/
inductive Fault where
  /-- The text ends too early. -/
  | endOfText
  /-- The text is not JSON. -/
  | malformed
  /-- The text is JSON of another shape. -/
  | mismatch
  deriving Repr, DecidableEq

/-- A piece of a quoted text: a character, or the 16-bit unit of an escape. -/
inductive Piece where
  | char (c : Char)
  | unit (n : Nat)
  deriving Repr, DecidableEq

/-- What stands between quotes. A fault says why there is no closing quote. -/
structure Quoted where
  pieces : List Piece
  fault : Option Fault := none
  deriving Repr, DecidableEq

/-- A quoted text with one more piece in front. -/
def Quoted.cons (p : Piece) (q : Quoted) : Quoted := ⟨p :: q.pieces, q.fault⟩

/-- The text that quoted pieces stand for. Units from the two surrogate ranges stand for one
character together and for none alone. -/
def piecesChars (fault : Option Fault) : List Piece → Except Fault (List Char)
  | [] =>
    match fault with
    | none => .ok []
    | some f => .error f
  | .char c :: rest => (piecesChars fault rest).map (c :: ·)
  | .unit high :: .unit low :: rest =>
    if 0xD800 ≤ high ∧ high < 0xDC00 then
      if 0xDC00 ≤ low ∧ low < 0xE000 then
        (piecesChars fault rest).map
          (Char.ofNat (0x10000 + (high - 0xD800) * 0x400 + (low - 0xDC00)) :: ·)
      else .error .malformed
    else if 0xDC00 ≤ high ∧ high < 0xE000 then .error .malformed
    else (piecesChars fault (.unit low :: rest)).map (Char.ofNat high :: ·)
  | .unit n :: rest =>
    if 0xD800 ≤ n ∧ n < 0xDC00 then
      .error (if rest.isEmpty then fault.getD .malformed else .malformed)
    else if 0xDC00 ≤ n ∧ n < 0xE000 then .error .malformed
    else (piecesChars fault rest).map (Char.ofNat n :: ·)

/-- **Text of a quotation.** -/
def Quoted.chars (q : Quoted) : Except Fault (List Char) := piecesChars q.fault q.pieces

/-- **Token.** A text that is cut off inside a word or a numeral leaves a token of its own,
because the end of the text is met only by a reader that looks into it. -/
inductive Token where
  | openArray | closeArray | openObject | closeObject | comma | colon
  | null
  | bool (b : Bool)
  | number (text : List Char)
  | string (q : Quoted)
  | cutWord
  | cutNumber
  | broken
  deriving Repr, DecidableEq

/-- Blanks between tokens. -/
def isSpace (c : Char) : Bool := c == ' ' || c == '\n' || c == '\t' || c == '\r'

/-- The value of four hexadecimal digits. -/
def hexUnit? (a b c d : Char) : Option Nat := do
  return (← hexDigit? a) * 4096 + (← hexDigit? b) * 256 + (← hexDigit? c) * 16 + (← hexDigit? d)

/-- The character that a letter after a backslash stands for. -/
def escaped? : Char → Option Char
  | '"' => some '"'
  | '\\' => some '\\'
  | '/' => some '/'
  | 'b' => some '\x08'
  | 'f' => some '\x0c'
  | 'n' => some '\n'
  | 'r' => some '\r'
  | 't' => some '\t'
  | _ => none

/-- The fault of an escape whose four digits are not there: the text ends too early if fewer
than four bytes are left. -/
def cutEscape (rest : List Char) : Fault :=
  if (rest.take 4).foldl (fun size c => size + c.utf8Size) 0 < 4 then .endOfText else .malformed

/-- The quoted text after an opening quote, and what follows its closing quote. -/
def scanQuoted : List Char → Quoted × List Char
  | [] => (⟨[], some .endOfText⟩, [])
  | '"' :: rest => (⟨[], none⟩, rest)
  | '\\' :: 'u' :: a :: b :: c :: d :: rest =>
    match hexUnit? a b c d with
    | some n =>
      let (q, rest) := scanQuoted rest
      (q.cons (.unit n), rest)
    | none => (⟨[], some .malformed⟩, [])
  | '\\' :: 'u' :: rest => (⟨[], some (cutEscape rest)⟩, [])
  | ['\\'] => (⟨[], some .endOfText⟩, [])
  | '\\' :: c :: rest =>
    match escaped? c with
    | some e =>
      let (q, rest) := scanQuoted rest
      (q.cons (.char e), rest)
    | none => (⟨[], some .malformed⟩, [])
  | c :: rest =>
    if c.toNat < 0x20 then (⟨[], some .malformed⟩, [])
    else
      let (q, rest) := scanQuoted rest
      (q.cons (.char c), rest)

theorem scanQuoted_length_le (s : List Char) : (scanQuoted s).2.length ≤ s.length := by
  fun_induction scanQuoted s <;> simp_all <;> omega

/-- The end of a numeral after the mark and sign of its power: at least one digit. -/
def scanPower (text s : List Char) : Token × List Char :=
  match s.takeWhile Char.isDigit, s.dropWhile Char.isDigit with
  | [], [] => (.cutNumber, [])
  | [], _ => (.broken, [])
  | ds, rest => (.number (text ++ ds), rest)

/-- The end of a numeral after its places: a power of ten, if there is one. -/
def scanExponent (text : List Char) : List Char → Token × List Char
  | [] => (.number text, [])
  | e :: s =>
    if e = 'e' ∨ e = 'E' then
      match s with
      | '+' :: rest => scanPower (text ++ [e, '+']) rest
      | '-' :: rest => scanPower (text ++ [e, '-']) rest
      | _ => scanPower (text ++ [e]) s
    else (.number text, e :: s)

/-- The end of a numeral after its whole digits: places and an exponent, if there are any. -/
def scanPlaces (text s : List Char) : Token × List Char :=
  match s with
  | '.' :: rest =>
    match rest.takeWhile Char.isDigit, rest.dropWhile Char.isDigit with
    | [], [] => (.cutNumber, [])
    | [], _ => (.broken, [])
    | ds, rest => scanExponent (text ++ '.' :: ds) rest
  | _ => scanExponent text s

/-- The numeral whose first digit is `c`, after its sign, and what follows it. Zero is the
only whole part that starts with a zero. -/
def scanWhole (sign : List Char) (c : Char) (s : List Char) : Token × List Char :=
  if !c.isDigit then (.broken, [])
  else if c = '0' then
    match s with
    | [] => (.number (sign ++ ['0']), [])
    | d :: rest => if d.isDigit then (.broken, []) else scanPlaces (sign ++ ['0']) (d :: rest)
  else scanPlaces (sign ++ c :: s.takeWhile Char.isDigit) (s.dropWhile Char.isDigit)

/-- The numeral after a minus sign, and what follows it. -/
def scanNegative : List Char → Token × List Char
  | [] => (.cutNumber, [])
  | c :: rest => scanWhole ['-'] c rest

theorem scanPower_length_le (text s : List Char) : (scanPower text s).2.length ≤ s.length := by
  unfold scanPower
  split
  · simp
  · simp
  · exact (List.dropWhile_sublist _).length_le

theorem scanExponent_length_le (text s : List Char) :
    (scanExponent text s).2.length ≤ s.length := by
  unfold scanExponent
  split
  · simp
  · split
    · split
      · exact Nat.le_trans (scanPower_length_le _ _) (by simp; omega)
      · exact Nat.le_trans (scanPower_length_le _ _) (by simp; omega)
      · exact Nat.le_trans (scanPower_length_le _ _) (by simp)
    · simp

theorem scanPlaces_length_le (text s : List Char) :
    (scanPlaces text s).2.length ≤ s.length := by
  unfold scanPlaces
  split
  · rename_i rest
    split
    · simp
    · simp
    · exact Nat.le_trans (scanExponent_length_le _ _)
        (Nat.le_trans (List.dropWhile_sublist _).length_le (Nat.le_succ _))
  · exact scanExponent_length_le _ _

theorem scanWhole_length_le (sign : List Char) (c : Char) (s : List Char) :
    (scanWhole sign c s).2.length ≤ s.length := by
  unfold scanWhole
  split
  · simp
  · split
    · split
      · simp
      · split
        · simp
        · exact scanPlaces_length_le _ _
    · exact Nat.le_trans (scanPlaces_length_le _ _) (List.dropWhile_sublist _).length_le

theorem scanNegative_length_le (s : List Char) : (scanNegative s).2.length ≤ s.length := by
  cases s with
  | nil => simp [scanNegative]
  | cons c rest =>
    exact Nat.le_trans (scanWhole_length_le _ _ _) (Nat.le_succ _)

/-- What is left after a word, or why it is not there. -/
def scanWord (token : Token) : List Char → List Char → Token × List Char
  | [], s => (token, s)
  | _ :: _, [] => (.cutWord, [])
  | w :: word, c :: s => if w = c then scanWord token word s else (.broken, [])

theorem scanWord_length_le (token : Token) (word s : List Char) :
    (scanWord token word s).2.length ≤ s.length := by
  fun_induction scanWord token word s with
  | case1 => simp
  | case2 => simp
  | case3 c word s ih => exact Nat.le_trans ih (Nat.le_succ _)
  | case4 => simp

/-- The token that starts with a character, given what follows it. -/
def scanToken (c : Char) (s : List Char) : Token × List Char :=
  match c with
  | '[' => (.openArray, s)
  | ']' => (.closeArray, s)
  | '\x7b' => (.openObject, s)
  | '\x7d' => (.closeObject, s)
  | ',' => (.comma, s)
  | ':' => (.colon, s)
  | 'n' => scanWord .null ['u', 'l', 'l'] s
  | 't' => scanWord (.bool true) ['r', 'u', 'e'] s
  | 'f' => scanWord (.bool false) ['a', 'l', 's', 'e'] s
  | '"' =>
    let (q, rest) := scanQuoted s
    (.string q, rest)
  | '-' => scanNegative s
  | c => scanWhole [] c s

theorem scanToken_length_le (c : Char) (s : List Char) :
    (scanToken c s).2.length ≤ s.length := by
  unfold scanToken
  split
  · simp
  · simp
  · simp
  · simp
  · simp
  · simp
  · exact scanWord_length_le _ _ _
  · exact scanWord_length_le _ _ _
  · exact scanWord_length_le _ _ _
  · exact scanQuoted_length_le _
  · exact scanNegative_length_le _
  · exact scanWhole_length_le _ _ _

/-- Whether nothing can be cut after a token. -/
def Token.isLast : Token → Bool
  | .string q => q.fault.isSome
  | .cutWord | .cutNumber | .broken => true
  | _ => false

/-- **Tokens.** The tokens of a text up to the first broken one. -/
def tokens : List Char → List Token
  | [] => []
  | c :: s =>
    if isSpace c then tokens s
    else
      let scanned := scanToken c s
      if scanned.1.isLast then [scanned.1] else scanned.1 :: tokens scanned.2
termination_by s => s.length
decreasing_by
  · simp
  · have := scanToken_length_le c s
    simp only [List.length_cons]
    omega

/-! ## Written tokens -/

/-- The written form of a hexadecimal digit. -/
def hexDigit (n : Nat) : Char :=
  if n < 10 then Char.ofNat ('0'.toNat + n) else Char.ofNat ('a'.toNat + n - 10)

/-- The written form of a character between quotes. Quote, backslash and the control
characters are escaped, nothing else is. -/
def quoteChar (c : Char) : List Char :=
  match c with
  | '"' => ['\\', '"']
  | '\\' => ['\\', '\\']
  | '\x08' => ['\\', 'b']
  | '\x0c' => ['\\', 'f']
  | '\n' => ['\\', 'n']
  | '\r' => ['\\', 'r']
  | '\t' => ['\\', 't']
  | c =>
    if c.toNat < 0x20 then
      ['\\', 'u', '0', '0', hexDigit (c.toNat / 16), hexDigit (c.toNat % 16)]
    else [c]

/-- The written form of a text between quotes. -/
def quoted (s : List Char) : List Char := '"' :: s.flatMap quoteChar ++ ['"']

end DataGrid.Json
