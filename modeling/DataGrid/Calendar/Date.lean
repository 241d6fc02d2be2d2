/-!
# Calendar dates

Dates of the proleptic Gregorian calendar, with a year zero and years before it.

## Main definitions

* `Date`: year, month and day that exist together
* `Date.number`: the day counted from the first of January of the year 1
* `Date.dayOfYear`, `Date.weekday`, `Date.isoWeek`: derived parts of a date
* `Date.compare`: the order of dates in time
-/

namespace DataGrid.Calendar

/-- Whether a year has a 29th of February. -/
def isLeap (year : Int) : Bool :=
  year % 4 == 0 && (year % 100 != 0 || year % 400 == 0)

/-- The number of days of a month, zero for a month that does not exist. -/
def daysInMonth (year : Int) (month : Nat) : Nat :=
  match month with
  | 2 => if isLeap year then 29 else 28
  | 4 | 6 | 9 | 11 => 30
  | 1 | 3 | 5 | 7 | 8 | 10 | 12 => 31
  | _ => 0

/-- Whether a day exists in the supported range of years. -/
def isDate (year : Int) (month day : Nat) : Bool :=
  decide (-262143 ≤ year) && decide (year ≤ 262142) && decide (1 ≤ day) &&
    decide (day ≤ daysInMonth year month)

/-- **Date.** A day that exists. -/
structure Date where
  year : Int
  /-- From 1 to 12. -/
  month : Nat
  /-- From 1 to the length of the month. -/
  day : Nat
  exists_day : isDate year month day = true
  deriving Repr, DecidableEq

namespace Date

/-- The date with the given parts, if there is one. -/
def ofParts? (year : Int) (month day : Nat) : Option Date :=
  if h : isDate year month day = true then some ⟨year, month, day, h⟩ else none

/-- The order of dates in time: by year, then month, then day. -/
def compare (a b : Date) : Ordering :=
  (Ord.compare a.year b.year).then ((Ord.compare a.month b.month).then (Ord.compare a.day b.day))

instance : Ord Date := ⟨compare⟩

instance : Std.TransCmp compare :=
  inferInstanceAs (Std.TransCmp (compareLex (compareOn year) (compareLex (compareOn month)
    (compareOn day))))

/-- Dates that are neither earlier nor later than each other are one date. -/
instance : Std.LawfulEqCmp compare where
  eq_of_compare {a b} h := by
    have hparts : a.year = b.year ∧ a.month = b.month ∧ a.day = b.day := by
      simpa only [compare, Ordering.then_eq_eq, Std.LawfulEqOrd.compare_eq_iff_eq] using h
    cases a
    cases b
    cases hparts.1
    cases hparts.2.1
    cases hparts.2.2
    rfl

/-- Whether a date is not later than another one. -/
def atMost (a b : Date) : Bool := (compare a b).isLE

/-- The number of days of a year before a month begins. -/
def daysBefore (year : Int) (month : Nat) : Nat :=
  (List.range (month - 1)).foldl (fun days m => days + daysInMonth year (m + 1)) 0

/-- The place of a date in its year, from 1. -/
def dayOfYear (d : Date) : Nat := daysBefore d.year d.month + d.day

/-- The number of days before a year begins, counted from the year 1. -/
def daysBeforeYear (year : Int) : Int :=
  let y := year - 1
  365 * y + Int.fdiv y 4 - Int.fdiv y 100 + Int.fdiv y 400

/-- The day counted from the first of January of the year 1, which has number 1. -/
def number (d : Date) : Int := daysBeforeYear d.year + d.dayOfYear

/-- The day of the week, from 0 for Monday to 6 for Sunday. -/
def weekday (d : Date) : Nat := (Int.emod (d.number - 1) 7).toNat

/-- The day of the week, from 0 for Sunday to 6 for Saturday. -/
def weekdayFromSunday (d : Date) : Nat := (d.weekday + 1) % 7

/-- The number of Mondays of the year up to a date. -/
def weekFromMonday (d : Date) : Nat := (d.dayOfYear + 6 - d.weekday) / 7

/-- The number of Sundays of the year up to a date. -/
def weekFromSunday (d : Date) : Nat := (d.dayOfYear + 6 - d.weekdayFromSunday) / 7

/-- The number of weeks of a year that is divided into weeks by its Thursdays. -/
def isoWeeks (year : Int) : Nat :=
  let first := Int.emod (daysBeforeYear year) 7
  if first = 3 ∨ (first = 2 ∧ isLeap year) then 53 else 52

/-- The year and number of the week of a date, where a week belongs to the year of its
Thursday. -/
def isoWeek (d : Date) : Int × Nat :=
  let week := (d.dayOfYear + 9 - d.weekday) / 7
  if week = 0 then (d.year - 1, isoWeeks (d.year - 1))
  else if isoWeeks d.year < week then (d.year + 1, 1)
  else (d.year, week)

end Date

end DataGrid.Calendar
