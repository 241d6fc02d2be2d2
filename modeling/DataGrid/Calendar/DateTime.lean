import DataGrid.Calendar.Date

/-!
# Times of day and points in time

Times go down to the nanosecond. A leap second belongs to the second before it, whose billionths go
on from a whole second to two of them. It is written as a second of its own, so behind the second 59
as the second 60.

## Main definitions

* `Time`: hour, minute, second and nanosecond within their limits
* `Time.writtenSecond`, `Time.writtenFraction`, `Time.ofWritten?`: how a leap second is written
* `DateTime`: a date with a time
* `DateTime.timestamp`: seconds since the beginning of 1970, leap seconds left out
-/

namespace DataGrid.Calendar

/-- **Time of day.** A leap second may stand behind every second. -/
structure Time where
  /-- From 0 to 23. -/
  hour : Nat
  /-- From 0 to 59. -/
  minute : Nat
  /-- From 0 to 59. -/
  second : Nat
  /-- Billionths of a second, a whole second and more of them in the leap second behind it. -/
  nanosecond : Nat
  within_limits :
    hour < 24 ∧ minute < 60 ∧ second < 60 ∧ nanosecond < 2000000000
  deriving Repr, DecidableEq

namespace Time

/-- The time with the given parts, if there is one. -/
def ofParts? (hour minute second nanosecond : Nat) : Option Time :=
  if h : hour < 24 ∧ minute < 60 ∧ second < 60 ∧ nanosecond < 2000000000 then
    some ⟨hour, minute, second, nanosecond, h⟩
  else none

/-- The hour on a dial of twelve. -/
def dialHour (t : Time) : Nat := if t.hour % 12 = 0 then 12 else t.hour % 12

/-- The second as it is written: a leap second counts as one more. -/
def writtenSecond (t : Time) : Nat := t.second + t.nanosecond / 1000000000

/-- The billionths of the second that is written. -/
def writtenFraction (t : Time) : Nat := t.nanosecond % 1000000000

/-- The time that is written with the given parts, if there is one. The second 60 is the leap second
behind the second 59. -/
def ofWritten? (hour minute second fraction : Nat) : Option Time :=
  if second = 60 then ofParts? hour minute 59 (1000000000 + fraction)
  else ofParts? hour minute second fraction

end Time

/-- **Point in time.** A date with a time of day. -/
structure DateTime where
  date : Date
  time : Time
  deriving Repr, DecidableEq

/-- The number of the first of January 1970. -/
def epochDay : Int := 719163

/-- Seconds since the beginning of 1970. A leap second counts as the second before it. -/
def DateTime.timestamp (t : DateTime) : Int :=
  (t.date.number - epochDay) * 86400 + t.time.hour * 3600 + t.time.minute * 60 + t.time.second

end DataGrid.Calendar
