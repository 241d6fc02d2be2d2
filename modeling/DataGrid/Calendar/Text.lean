import DataGrid.Calendar.DateTime
import DataGrid.Numeric.Digits
import DataGrid.Numeric.Power
import DataGrid.Text.Words

/-!
# Written dates

Dates are written year first, with dashes, and times with colons. A year outside 0 to 9999
has a sign. A fraction of a second has three, six or nine digits, the fewest that suffice,
and is left out when it is zero.

## Main definitions

* `Date.chars`, `Time.chars`, `DateTime.chars`: written forms
* `Date.ofText?`, `DateTime.ofText?`: reading, with blanks tolerated between the parts
* `Date.ofBound?`: reading a date, with blanks tolerated before numbers only
-/

namespace DataGrid.Calendar

open Numeric Text

/-- A year: four digits from 0 to 9999, otherwise a sign and at least four digits. -/
def yearChars (year : Int) : List Char :=
  if 0 ≤ year ∧ year ≤ 9999 then padded 4 year.natAbs else signedPadded 4 year

/-- The written form of a date as characters. -/
def Date.chars (d : Date) : List Char :=
  yearChars d.year ++ '-' :: padded 2 d.month ++ '-' :: padded 2 d.day

/-- A fraction of a second behind a point, in three, six or nine digits. -/
def fractionChars (nanosecond : Nat) : List Char :=
  if nanosecond = 0 then []
  else if nanosecond % 1000000 = 0 then '.' :: padded 3 (nanosecond / 1000000)
  else if nanosecond % 1000 = 0 then '.' :: padded 6 (nanosecond / 1000)
  else '.' :: padded 9 nanosecond

/-- The written form of a time as characters. -/
def Time.chars (t : Time) : List Char :=
  padded 2 t.hour ++ ':' :: padded 2 t.minute ++ ':' :: padded 2 t.writtenSecond ++
    fractionChars t.writtenFraction

/-- The written form of a point in time, with a given character before the time. -/
def DateTime.chars (separator : Char) (t : DateTime) : List Char :=
  t.date.chars ++ separator :: t.time.chars

/-- A number of one to `limit` digits after optional blanks, and what follows it. -/
def scanNumber (limit : Nat) (s : List Char) : Option (Nat × List Char) :=
  match takeDigits limit (dropBlanks s) with
  | ([], _) => none
  | (ds, rest) => some (valueOf ds, rest)

/-- A year after optional blanks: up to four digits, or a sign and any number of digits. -/
def scanYear (s : List Char) : Option (Int × List Char) :=
  match dropBlanks s with
  | '-' :: rest => signedYear (-1) rest
  | '+' :: rest => signedYear 1 rest
  | rest => (scanNumber 4 rest).map fun (n, rest) => ((n : Int), rest)
where
  /-- A year behind its sign. -/
  signedYear (sign : Int) (s : List Char) : Option (Int × List Char) :=
    match takeDigits s.length s with
    | ([], _) => none
    | (ds, rest) => some (sign * valueOf ds, rest)

/-- What follows a character at the start of a text. -/
def scanChar (c : Char) : List Char → Option (List Char)
  | [] => none
  | d :: rest => if d = c then some rest else none

/-- A date at the start of a text, and what follows it. `gap` takes off what may stand
before a dash. -/
def scanDate (gap : List Char → List Char) (s : List Char) : Option (Date × List Char) := do
  let (year, s) ← scanYear s
  let s ← scanChar '-' (gap s)
  let (month, s) ← scanNumber 2 s
  let s ← scanChar '-' (gap s)
  let (day, s) ← scanNumber 2 s
  let date ← Date.ofParts? year month day
  return (date, s)

/-- The billionths of a second that a fraction stands for, and what follows it. There is at
least one digit; those after the ninth are skipped. -/
def scanFraction : List Char → Option (Nat × List Char)
  | '.' :: s =>
    match takeDigits 9 s with
    | ([], _) => none
    | (ds, rest) => some (valueOf ds * tenTo (9 - ds.length), rest.dropWhile Char.isDigit)
  | s => some (0, s)

/-- A time at the start of a text, and what follows it. -/
def scanTime (s : List Char) : Option (Time × List Char) := do
  let (hour, s) ← scanNumber 2 s
  let s ← scanChar ':' (dropBlanks s)
  let (minute, s) ← scanNumber 2 s
  let s ← scanChar ':' (dropBlanks s)
  let (second, s) ← scanNumber 2 s
  let (fraction, s) ← scanFraction s
  let time ← Time.ofWritten? hour minute second fraction
  return (time, s)

/-- **Reading a date.** Blanks may stand before every part and at the end. -/
def Date.ofText? (s : String) : Option Date := do
  let (date, rest) ← scanDate dropBlanks s.toList
  if (dropBlanks rest).isEmpty then some date else none

/-- **Reading a bound.** Blanks may stand before the three numbers and nowhere else. -/
def Date.ofBound? (s : String) : Option Date := do
  let (date, rest) ← scanDate id s.toList
  if rest.isEmpty then some date else none

/-- **Reading a point in time.** Blanks may stand before every part and at the end. -/
def DateTime.ofText? (s : String) : Option DateTime := do
  let (date, s) ← scanDate dropBlanks s.toList
  let s ← scanChar 'T' (dropBlanks s)
  let (time, rest) ← scanTime s
  if (dropBlanks rest).isEmpty then some ⟨date, time⟩ else none

/-- The written form of a date. -/
def Date.text (d : Date) : String := String.ofList d.chars

end DataGrid.Calendar
