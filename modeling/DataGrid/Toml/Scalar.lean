import DataGrid.Calendar.Text
import DataGrid.Numeric.Binary64

/-!
# TOML values

## Main definitions

* `Toml.Value`: a value; floats and points in time are kept as they are written
* `Value.ofInteger?`: whole numbers, decimal or by a radix
* `Value.ofFloat?`: the numerals with places or a power
* `isMoment`: dates, times and both, with an optional distance from world time
* `Value.ofWord?`: the value that a word stands for
* `Value.isReadable`: whether its numerals stand for numbers
-/

namespace DataGrid.Toml

open Numeric Calendar

/-- **TOML value.** -/
inductive Value where
  | text (s : String)
  | integer (n : Int)
  | float (written : String)
  /-- A numeral without a number: one that is too large, has no digits behind the mark of its
  radix, or has other characters among its digits. -/
  | numeral (written : String)
  | bool (b : Bool)
  | moment (written : String)
  | array (items : List Value)
  | table (members : List (String × Value))
  deriving Repr

/-! ## Numbers -/

/-- Whether underscores stand between digits only. -/
def groupsDigits (isDigit : Char → Bool) (s : List Char) : Bool :=
  let pieces := s.splitOn '_'
  pieces.tail.all (·.head?.any isDigit) && pieces.dropLast.all (·.getLast?.any isDigit)

/-- A text without its underscores. -/
def dropUnderscores (s : List Char) : List Char := s.filter (· ≠ '_')

/-- The digits at the start of a text with the underscores among them, and what follows. -/
def spanDigits (s : List Char) : List Char × List Char :=
  s.span fun c => c.isDigit || c = '_'

/-- Whether a character is a digit of a radix up to sixteen. -/
def isRadixDigit (radix : Nat) (c : Char) : Bool := (hexDigit? c).any (· < radix)

/-- The number that the digits of a radix stand for. -/
def radixValue (radix : Nat) (ds : List Char) : Nat :=
  ds.foldl (fun n c => n * radix + (hexDigit? c).getD 0) 0

/-- A text without a sign at its start, and whether that was a minus sign. -/
def dropSign : List Char → Bool × List Char
  | '-' :: s => (true, s)
  | '+' :: s => (false, s)
  | s => (false, s)

/-- Whether a whole number has 128 bits, with or without a sign. -/
def hasWidth (n : Int) : Bool := -(twoTo 127 : Int) ≤ n && n < twoTo 128

/-- A whole number, unless it has too many bits. -/
def Value.ofNumber (written : List Char) (n : Int) : Value :=
  if hasWidth n then .integer n else .numeral (String.ofList written)

/-- A whole number behind a mark of its radix. There need not be digits, but then there is no
number. -/
def Value.ofRadix? (radix : Nat) (written digits : List Char) : Option Value :=
  if digits.all (fun c => isRadixDigit radix c || c = '_') &&
      groupsDigits (isRadixDigit 16) digits then
    if digits.isEmpty then some (.numeral (String.ofList written))
    else some (.ofNumber written (radixValue radix (dropUnderscores digits)))
  else none

/-- A decimal number, possibly behind a sign, without leading zeros. Behind its first underscore
other characters may stand, if digits of some radix are beside the underscores, but then there
is no number. -/
def Value.ofDecimal? (written : List Char) : Option Value :=
  let (negative, size) := dropSign written
  let isGrouped := (size.dropWhile Char.isDigit).head? = some '_' &&
    !size.any [' ', '.', 'e', 'E'].contains
  if size.isEmpty || (size.head? = some '0' && size != ['0']) then none
  else if (size.all Char.isDigit || isGrouped) && groupsDigits (isRadixDigit 16) written then
    let ds := dropUnderscores size
    if ds.all Char.isDigit then
      some (.ofNumber written (if negative then -(valueOf ds : Int) else valueOf ds))
    else some (.numeral (String.ofList written))
  else none

/-- **Whole numbers.** A decimal number, or one behind the mark of its radix. -/
def Value.ofInteger? (s : List Char) : Option Value :=
  match s with
  | '0' :: 'x' :: ds => Value.ofRadix? 16 s ds
  | '0' :: 'o' :: ds => Value.ofRadix? 8 s ds
  | '0' :: 'b' :: ds => Value.ofRadix? 2 s ds
  | s => Value.ofDecimal? s

/-- Whether the number `n * 10 ^ power` is within the range of doubles. -/
def fitsDouble (n : Nat) (power : Int) : Bool :=
  let size := (digits n).length + power
  if n = 0 ∨ size ≤ 308 then true
  else if 310 ≤ size then false
  else
    (if 0 ≤ power then Binary64.ofRatio? false (n * tenTo power.toNat) 1
    else Binary64.ofRatio? false n (tenTo (-power).toNat)).isSome

/-- The number behind a letter for a power of ten, which may have a sign. Without the letter
the power is zero. -/
def readPower? (s : List Char) : Option Int :=
  match s with
  | [] => some 0
  | mark :: rest =>
    if mark = 'e' ∨ mark = 'E' then
      let (negative, rest) := dropSign rest
      let (ds, rest) := spanDigits rest
      let n : Int := valueOf (dropUnderscores ds)
      if (dropUnderscores ds).isEmpty || !rest.isEmpty then none
      else some (if negative then -n else n)
    else none

/-- The whole digits, places and power of a numeral that has places or a power. -/
def floatParts? (s : List Char) : Option (List Char × List Char × Int) := do
  let (whole, rest) := spanDigits s
  let ds := dropUnderscores whole
  if ds.isEmpty || rest.isEmpty || (whole.head? = some '0' && 1 < ds.length) then none
  else
    match rest with
    | '.' :: rest =>
      let (places, rest) := spanDigits rest
      if (dropUnderscores places).isEmpty then none
      else return (ds, dropUnderscores places, ← readPower? rest)
    | _ => return (ds, [], ← readPower? rest)

/-- **Floats.** A numeral with places or a power, infinity or no number, possibly behind a
sign. -/
def Value.ofFloat? (s : List Char) : Option Value :=
  let written := String.ofList s
  let (_, size) := dropSign s
  if size = "inf".toList ∨ size = "nan".toList then some (.float written)
  else if groupsDigits Char.isDigit s then
    (floatParts? size).map fun (whole, places, power) =>
      if fitsDouble (valueOf (whole ++ places)) (power - places.length) then .float written
      else .numeral written
  else none

/-! ## Points in time -/

/-- Exactly two digits at the start of a text, and what follows them. -/
def scanPair? : List Char → Option (Nat × List Char)
  | a :: b :: rest => if a.isDigit && b.isDigit then some (valueOf [a, b], rest) else none
  | _ => none

/-- What follows a date that exists at the start of a text. -/
def afterDate? (s : List Char) : Option (List Char) := do
  let (century, s) ← scanPair? s
  let (year, s) ← scanPair? s
  let (month, s) ← scanPair? (← scanChar '-' s)
  let (day, s) ← scanPair? (← scanChar '-' s)
  let _ ← Date.ofParts? ((century * 100 + year : Nat) : Int) month day
  return s

/-- What follows the seconds of a time, if there are any, and their places. The sixtieth
second is a leap second. -/
def afterSeconds? (s : List Char) : Option (List Char) :=
  match s with
  | ':' :: s => do
    let (second, s) ← scanPair? s
    if 60 < second then none
    else
      match s with
      | '.' :: s =>
        match s.takeWhile Char.isDigit with
        | [] => none
        | _ => some (s.dropWhile Char.isDigit)
      | s => some s
  | s => some s

/-- What follows hours and minutes at the start of a text. -/
def afterMinutes? (s : List Char) : Option (List Char) := do
  let (hour, s) ← scanPair? s
  let (minute, s) ← scanPair? (← scanChar ':' s)
  if hour < 24 ∧ minute < 60 then some s else none

/-- What follows a time at the start of a text. -/
def afterTime? (s : List Char) : Option (List Char) := do afterSeconds? (← afterMinutes? s)

/-- What follows a distance from world time at the start of a text. -/
def afterOffset? : List Char → Option (List Char)
  | 'Z' :: s | 'z' :: s => some s
  | '+' :: s | '-' :: s => afterMinutes? s
  | _ => none

/-- **Points in time.** Whether a word is a date, a time, or a date and a time, the last
possibly with its distance from world time. -/
def isMoment (s : List Char) : Bool :=
  match afterDate? s with
  | none => afterTime? s == some []
  | some [] => true
  | some (mark :: s) =>
    ['T', 't', ' '].contains mark &&
      match afterTime? s with
      | none => false
      | some [] => true
      | some rest => afterOffset? rest == some []

/-! ## Words -/

/-- **Words.** The value that a word stands for. -/
def Value.ofWord? (s : List Char) : Option Value :=
  if s = "true".toList then some (.bool true)
  else if s = "false".toList then some (.bool false)
  else
    Value.ofInteger? s <|> Value.ofFloat? s <|>
      if isMoment s then some (.moment (String.ofList s)) else none

/-! ## Values that can be read -/

mutual

/-- Whether every numeral in a value stands for a number. -/
def Value.isReadable : Value → Bool
  | .numeral _ => false
  | .array items => Value.areReadable items
  | .table members => Value.membersAreReadable members
  | _ => true

/-- Whether every numeral in some items stands for a number. -/
def Value.areReadable : List Value → Bool
  | [] => true
  | item :: rest => item.isReadable && Value.areReadable rest

/-- Whether every numeral in some members stands for a number. -/
def Value.membersAreReadable : List (String × Value) → Bool
  | [] => true
  | (_, value) :: rest => value.isReadable && Value.membersAreReadable rest

end

end DataGrid.Toml
