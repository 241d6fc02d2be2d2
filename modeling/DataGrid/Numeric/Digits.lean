/-!
# Decimal digits

Numbers written with the digits 0 to 9, and digits read as numbers.

## Main definitions

* `digits`, `padded`: the digits of a number, alone and up to a width
* `valueOf`: the number that digits stand for
* `signed`, `signedPadded`: the digits of an integer behind its sign
* `takeDigits`: the digits at the start of a text, up to a count, and what follows them
* `hexDigit?`: the value of a hexadecimal digit
-/

namespace DataGrid.Numeric

/-- The digits of a number, without leading zeros. -/
def digits (n : Nat) : List Char := Nat.toDigits 10 n

/-- The number that digits stand for. -/
def valueOf (ds : List Char) : Nat := Nat.ofDigitChars 10 ds 0

theorem valueOf_digits (n : Nat) : valueOf (digits n) = n :=
  Nat.ofDigitChars_toDigits (by decide) (by decide)

/-- The digits of a number with enough leading fill to reach a width. -/
def filled (fill : Char) (width n : Nat) : List Char :=
  List.replicate (width - (digits n).length) fill ++ digits n

/-- The digits of a number with enough leading zeros to reach a width. -/
def padded (width n : Nat) : List Char := filled '0' width n

/-- The digits of an integer, behind a minus sign if it is negative. -/
def signed (n : Int) : List Char :=
  if n < 0 then '-' :: digits n.natAbs else digits n.natAbs

/-- The digits of an integer, with zeros up to a width, behind a sign in any case. -/
def signedPadded (width : Nat) (n : Int) : List Char :=
  (if n < 0 then '-' else '+') :: padded width n.natAbs

/-- At most `limit` digits from the start of a text, and what follows them. -/
def takeDigits : Nat → List Char → List Char × List Char
  | 0, s => ([], s)
  | _ + 1, [] => ([], [])
  | limit + 1, c :: s =>
    if c.isDigit then
      let (ds, rest) := takeDigits limit s
      (c :: ds, rest)
    else ([], c :: s)

/-- A nonempty row of digits and nothing else. -/
def isNumeral (s : List Char) : Bool := !s.isEmpty && s.all Char.isDigit

/-- The number written by a nonempty row of digits, possibly behind a plus sign. -/
def natOfText? (s : List Char) : Option Nat :=
  let ds := match s with
    | '+' :: rest => rest
    | _ => s
  if isNumeral ds then some (valueOf ds) else none

/-- The value of a hexadecimal digit. -/
def hexDigit? (c : Char) : Option Nat :=
  if c.isDigit then some (c.toNat - '0'.toNat)
  else if 'a' ≤ c ∧ c ≤ 'f' then some (c.toNat - 'a'.toNat + 10)
  else if 'A' ≤ c ∧ c ≤ 'F' then some (c.toNat - 'A'.toNat + 10)
  else none

end DataGrid.Numeric
