import DataGrid.Calendar.Text

/-!
# Date patterns

A pattern says how a date or a point in time is written: percent signs introduce fields,
everything else stands for itself.

## Main definitions

* `Field`, `Figure`, `Padding`: what a pattern is made of
* `Pattern.ofText?`: the fields of a pattern; a pattern with an unknown field has none
* `Moment`: what is written, a date with or without a time of day
* `Moment.format?`: the written form; there is none if a field needs a missing time
-/

namespace DataGrid.Calendar

open Numeric

/-- What fills a number up to its usual width. -/
inductive Padding where
  | nothing
  | zeros
  | blanks
  deriving Repr, DecidableEq

/-- The numbers that a pattern can ask for. -/
inductive Figure where
  | year | century | yearOfCentury
  | weekYear | weekYearOfCentury | week
  | quarter | month | day | dayOfYear
  | weekFromSunday | weekFromMonday
  | weekdayFromSunday | weekdayFromMonday
  | hour | dialHour | minute | second | nanosecond
  | timestamp
  deriving Repr, DecidableEq

/-- A part of a pattern. -/
inductive Field where
  /-- A character that stands for itself. -/
  | literal (c : Char)
  | figure (figure : Figure) (padding : Padding)
  | shortMonth | longMonth | shortWeekday | longWeekday
  | lowerHalf | upperHalf
  /-- A fraction of a second in as many digits as it needs. -/
  | fraction
  /-- A fraction of a second in a fixed number of digits, with or without a point. -/
  | fixedFraction (point : Bool) (places : Nat)
  deriving Repr, DecidableEq

/-- The number that a letter asks for, with the padding it brings along. -/
def figureOf? : Char → Option (Figure × Padding)
  | 'C' => some (.century, .zeros)
  | 'G' => some (.weekYear, .zeros)
  | 'H' => some (.hour, .zeros)
  | 'I' => some (.dialHour, .zeros)
  | 'M' => some (.minute, .zeros)
  | 'S' => some (.second, .zeros)
  | 'U' => some (.weekFromSunday, .zeros)
  | 'V' => some (.week, .zeros)
  | 'W' => some (.weekFromMonday, .zeros)
  | 'Y' => some (.year, .zeros)
  | 'd' => some (.day, .zeros)
  | 'e' => some (.day, .blanks)
  | 'f' => some (.nanosecond, .zeros)
  | 'g' => some (.weekYearOfCentury, .zeros)
  | 'j' => some (.dayOfYear, .zeros)
  | 'k' => some (.hour, .blanks)
  | 'l' => some (.dialHour, .blanks)
  | 'm' => some (.month, .zeros)
  | 'q' => some (.quarter, .nothing)
  | 's' => some (.timestamp, .nothing)
  | 'u' => some (.weekdayFromMonday, .nothing)
  | 'w' => some (.weekdayFromSunday, .nothing)
  | 'y' => some (.yearOfCentury, .zeros)
  | _ => none

/-- A field for a number with its own padding. -/
private def plain (letter : Char) : Field :=
  match figureOf? letter with
  | some (figure, padding) => .figure figure padding
  | none => .literal letter

/-- Numbers with a character between them. -/
private def between (c : Char) (letters : List Char) : List Field :=
  (letters.map plain).intersperse (.literal c)

/-- The fields that a letter after a percent sign stands for. -/
def fieldsOf? : Char → Option (List Field)
  | 'A' => some [.longWeekday]
  | 'B' => some [.longMonth]
  | 'D' | 'x' => some (between '/' ['m', 'd', 'y'])
  | 'F' => some (between '-' ['Y', 'm', 'd'])
  | 'P' => some [.lowerHalf]
  | 'R' => some (between ':' ['H', 'M'])
  | 'T' | 'X' => some (between ':' ['H', 'M', 'S'])
  | 'a' => some [.shortWeekday]
  | 'b' | 'h' => some [.shortMonth]
  | 'c' =>
    some ([.shortWeekday, .literal ' ', .shortMonth, .literal ' ', plain 'e', .literal ' '] ++
      between ':' ['H', 'M', 'S'] ++ [.literal ' ', plain 'Y'])
  | 'n' => some [.literal '\n']
  | 'p' => some [.upperHalf]
  | 'r' => some (between ':' ['I', 'M', 'S'] ++ [.literal ' ', .upperHalf])
  | 't' => some [.literal '\t']
  | 'v' => some [plain 'e', .literal '-', .shortMonth, .literal '-', plain 'Y']
  | '%' => some [.literal '%']
  | c => (figureOf? c).map fun (figure, padding) => [.figure figure padding]

/-- The padding that a character after a percent sign asks for. -/
def paddingOf? : Char → Option Padding
  | '-' => some .nothing
  | '0' => some .zeros
  | '_' => some .blanks
  | _ => none

/-- The number of digits that a character asks for in a fraction. -/
def placesOf? : Char → Option Nat
  | '3' => some 3
  | '6' => some 6
  | '9' => some 9
  | _ => none

/-- The fields of a pattern given as characters. -/
def Pattern.fields? : List Char → Option (List Field)
  | [] => some []
  | '%' :: '.' :: 'f' :: rest => (fields? rest).map (.fraction :: ·)
  | '%' :: '.' :: n :: 'f' :: rest => do
    let places ← placesOf? n
    let fields ← fields? rest
    return .fixedFraction true places :: fields
  | '%' :: c :: d :: rest =>
    match paddingOf? c, placesOf? c with
    | some padding, _ => do
      let (figure, _) ← figureOf? d
      let fields ← fields? rest
      return .figure figure padding :: fields
    | none, some places =>
      if d = 'f' then (fields? rest).map (.fixedFraction false places :: ·) else none
    | none, none => do
      let these ← fieldsOf? c
      let fields ← fields? (d :: rest)
      return these ++ fields
  | ['%', c] => fieldsOf? c
  | ['%'] => none
  | c :: rest => (fields? rest).map (.literal c :: ·)

/-- **Pattern.** The fields of a pattern. -/
def Pattern.ofText? (pattern : String) : Option (List Field) := fields? pattern.toList

/-- What a pattern is applied to: a date, with or without a time of day. -/
structure Moment where
  date : Date
  time : Option Time := none
  deriving Repr, DecidableEq

/-- The names of the months, from January. -/
def monthNames : List String :=
  ["January", "February", "March", "April", "May", "June", "July", "August", "September",
    "October", "November", "December"]

/-- The names of the days of the week, from Monday. -/
def weekdayNames : List String :=
  ["Monday", "Tuesday", "Wednesday", "Thursday", "Friday", "Saturday", "Sunday"]

/-- A number filled up to a width; the sign, if there is one, counts. -/
def fill (padding : Padding) (width : Nat) (withPlus : Bool) (n : Int) : List Char :=
  let sign := if n < 0 then ['-'] else if withPlus then ['+'] else []
  match padding with
  | .nothing => sign ++ digits n.natAbs
  | .zeros => sign ++ padded (width - sign.length) n.natAbs
  | .blanks =>
    List.replicate (width - sign.length - (digits n.natAbs).length) ' ' ++ sign ++
      digits n.natAbs

/-- A year: with a sign, and one place more for it, outside 0 to 9999. -/
def fillYear (padding : Padding) (year : Int) : List Char :=
  if 0 ≤ year ∧ year ≤ 9999 then fill padding 4 false year else fill padding 5 true year

/-- A count of centuries in two places. It is taken modulo 256; the tens have one character,
which goes on behind the digits in the order of code points. -/
def fillCentury (padding : Padding) (century : Int) : List Char :=
  let n := (Int.emod century 256).toNat
  let tens := match padding with
    | .nothing => if n < 10 then [] else [Char.ofNat ('0'.toNat + n / 10)]
    | .blanks => if n < 10 then [' '] else [Char.ofNat ('0'.toNat + n / 10)]
    | .zeros => [Char.ofNat ('0'.toNat + n / 10)]
  tens ++ digits (n % 10)

namespace Moment

/-- The written form of a number, if the moment has it. -/
def figure? (m : Moment) (figure : Figure) (padding : Padding) : Option (List Char) :=
  let d := m.date
  match figure with
  | .year => some (fillYear padding d.year)
  | .century => some (fillCentury padding (Int.fdiv d.year 100))
  | .yearOfCentury => some (fill padding 2 false (Int.emod d.year 100))
  | .weekYear => some (fillYear padding d.isoWeek.1)
  | .weekYearOfCentury => some (fill padding 2 false (Int.emod d.isoWeek.1 100))
  | .week => some (fill padding 2 false d.isoWeek.2)
  | .quarter => some (digits ((d.month + 2) / 3))
  | .month => some (fill padding 2 false d.month)
  | .day => some (fill padding 2 false d.day)
  | .dayOfYear => some (fill padding 3 false d.dayOfYear)
  | .weekFromSunday => some (fill padding 2 false d.weekFromSunday)
  | .weekFromMonday => some (fill padding 2 false d.weekFromMonday)
  | .weekdayFromSunday => some (digits d.weekdayFromSunday)
  | .weekdayFromMonday => some (digits (d.weekday + 1))
  | .hour => m.time.map fun t => fill padding 2 false t.hour
  | .dialHour => m.time.map fun t => fill padding 2 false t.dialHour
  | .minute => m.time.map fun t => fill padding 2 false t.minute
  | .second => m.time.map fun t => fill padding 2 false t.writtenSecond
  | .nanosecond => m.time.map fun t => fill padding 9 false t.writtenFraction
  | .timestamp => m.time.map fun t => fill padding 9 false (DateTime.timestamp ⟨d, t⟩)

/-- The written form of a field, if the moment has it. -/
def field? (m : Moment) : Field → Option (List Char)
  | .literal c => some [c]
  | .figure figure padding => m.figure? figure padding
  | .shortMonth => some (((monthNames.getD (m.date.month - 1) "").toList).take 3)
  | .longMonth => some (monthNames.getD (m.date.month - 1) "").toList
  | .shortWeekday => some (((weekdayNames.getD m.date.weekday "").toList).take 3)
  | .longWeekday => some (weekdayNames.getD m.date.weekday "").toList
  | .lowerHalf => m.time.map fun t => if t.hour < 12 then ['a', 'm'] else ['p', 'm']
  | .upperHalf => m.time.map fun t => if t.hour < 12 then ['A', 'M'] else ['P', 'M']
  | .fraction => m.time.map fun t => fractionChars t.writtenFraction
  | .fixedFraction point places => m.time.map fun t =>
    (if point then ['.'] else []) ++ padded places (t.writtenFraction / tenTo (9 - places))

/-- **Formatting.** The written form of a moment by a pattern. -/
def format? (pattern : String) (m : Moment) : Option String := do
  let fields ← Pattern.ofText? pattern
  let parts ← fields.mapM m.field?
  return String.ofList parts.flatten

end Moment

end DataGrid.Calendar
