import DataGrid.Calendar.Text
import DataGrid.Proofs.Numeric.Digits

/-!
# Dates that are read back

A written part of a date ends where it has as many digits as are asked for, or where a mark
follows. So it is read up to its end, and the parts that are read make up the date again. So do those
of a time, unless it is in a leap second that is not the last of its minute: this one is written as
the second behind it.

## Main definitions

* `Time.leapEndsMinute`: a leap second, if it is one, is the last of its minute
* `Time.settled`: the time that is read where a time was written

## Main results

* `scanNumber_padded_append`, `scanYear_yearChars_append`: a written number is read up to its end
* `Time.settled_eq_self_iff`: which times are settled
* `scanDate_chars_append`, `scanTime_chars`: dates and times are read up to their end
* `Date.ofText?_text`, `DateTime.ofText?_chars`: written dates are read back, and written points in
  time as they are settled
-/

namespace DataGrid.Calendar

open Numeric Text

/-! ## Numbers and marks -/

theorem isBlank_of_isDigit {c : Char} (h : c.isDigit) : isBlank c = false := by
  have hbounds : 48 ≤ c.toNat ∧ c.toNat ≤ 57 := Char.isDigit_iff_toNat.mp h
  simp only [isBlank, Bool.or_eq_false_iff, Bool.and_eq_false_iff, decide_eq_false_iff_not,
    beq_eq_false_iff_ne]
  omega

theorem scanChar_dropBlanks (c : Char) (s : List Char) (h : isBlank c = false := by decide) :
    scanChar c (dropBlanks (c :: s)) = some s := by
  rw [dropBlanks, List.dropWhile_cons_of_neg (by simp [h]), scanChar, if_pos rfl]

theorem dropBlanks_padded_append (width n : Nat) (rest : List Char) :
    dropBlanks (padded width n ++ rest) = padded width n ++ rest := by
  obtain ⟨d, ds, hpadded, hd⟩ := padded_eq_cons width n
  rw [hpadded, List.cons_append, dropBlanks,
    List.dropWhile_cons_of_neg (by simp [isBlank_of_isDigit hd])]

/-- **Reading a number.** It is read up to its end if that is where the limit is, or where no digit
follows. -/
theorem scanNumber_padded_append {limit width n : Nat} {rest : List Char}
    (hlimit : (padded width n).length ≤ limit)
    (hrest : (padded width n).length = limit ∨ ∀ c ∈ rest.head?, ¬ c.isDigit) :
    scanNumber limit (padded width n ++ rest) = some (n, rest) := by
  have htake := takeDigits_append (fun c hc => isDigit_of_mem_padded hc) hlimit hrest
  have hvalue := valueOf_padded width n
  obtain ⟨d, ds, hpadded, -⟩ := padded_eq_cons width n
  rw [scanNumber, dropBlanks_padded_append, htake]
  rw [hpadded] at hvalue ⊢
  simp only [hvalue]

/-- A number in two places is read with two digits, whatever follows it. -/
theorem scanNumber_two {n : Nat} (h : n < 100) (rest : List Char) :
    scanNumber 2 (padded 2 n ++ rest) = some (n, rest) := by
  have hlength : (padded 2 n).length = 2 := length_padded (by decide) h
  exact scanNumber_padded_append (Nat.le_of_eq hlength) (.inl hlength)

/-! ## Dates -/

theorem signedYear_padded_append {sign : Int} {n : Nat} (rest : List Char) :
    scanYear.signedYear sign (padded 4 n ++ '-' :: rest) = some (sign * n, '-' :: rest) := by
  have hlimit : (padded 4 n).length ≤ (padded 4 n ++ '-' :: rest).length := by
    rw [List.length_append]
    exact Nat.le_add_right _ _
  have htake : takeDigits (padded 4 n ++ '-' :: rest).length (padded 4 n ++ '-' :: rest) =
      (padded 4 n, '-' :: rest) :=
    takeDigits_append (fun c hc => isDigit_of_mem_padded hc) hlimit (.inr (by simp))
  have hvalue := valueOf_padded 4 n
  obtain ⟨d, ds, hpadded, -⟩ := padded_eq_cons 4 n
  rw [scanYear.signedYear, htake]
  rw [hpadded] at hvalue ⊢
  simp only [hvalue]

theorem scanYear_padded_append (width n : Nat) (rest : List Char) :
    scanYear (padded width n ++ rest) =
      (scanNumber 4 (padded width n ++ rest)).map fun read => ((read.1 : Int), read.2) := by
  unfold scanYear
  rw [dropBlanks_padded_append]
  split
  · exact absurd ‹_› (padded_append_ne_cons (by decide) rest _)
  · exact absurd ‹_› (padded_append_ne_cons (by decide) rest _)
  · rfl

/-- **Reading a year.** It ends at the dash behind it. -/
theorem scanYear_yearChars_append (year : Int) (rest : List Char) :
    scanYear (yearChars year ++ '-' :: rest) = some (year, '-' :: rest) := by
  rw [yearChars]
  split
  · -- four digits
    rename_i hyear
    have hlength : (padded 4 year.natAbs).length = 4 :=
      length_padded (by decide) (show year.natAbs < 10000 by omega)
    have hsame : (year.natAbs : Int) = year := by omega
    rw [scanYear_padded_append, scanNumber_padded_append (Nat.le_of_eq hlength) (.inl hlength)]
    simp only [Option.map_some, hsame]
  · -- a sign, and digits up to the dash
    rw [signedPadded]
    split
    · have hsame : -1 * (year.natAbs : Int) = year := by omega
      have hread : scanYear ('-' :: padded 4 year.natAbs ++ '-' :: rest) =
          scanYear.signedYear (-1) (padded 4 year.natAbs ++ '-' :: rest) := rfl
      rw [hread, signedYear_padded_append, hsame]
    · have hsame : 1 * (year.natAbs : Int) = year := by omega
      have hread : scanYear ('+' :: padded 4 year.natAbs ++ '-' :: rest) =
          scanYear.signedYear 1 (padded 4 year.natAbs ++ '-' :: rest) := rfl
      rw [hread, signedYear_padded_append, hsame]

theorem daysInMonth_le (year : Int) (month : Nat) : daysInMonth year month ≤ 31 := by
  unfold daysInMonth
  split
  · split <;> decide
  all_goals decide

theorem daysInMonth_eq_zero {year : Int} {month : Nat} (h : 12 < month) :
    daysInMonth year month = 0 := by
  unfold daysInMonth
  split <;> omega

theorem Date.month_le (d : Date) : d.month ≤ 12 := by
  have hexists := d.exists_day
  simp only [isDate, Bool.and_eq_true, decide_eq_true_eq] at hexists
  apply Nat.le_of_not_lt
  intro hmonth
  rw [daysInMonth_eq_zero hmonth] at hexists
  omega

theorem Date.day_le (d : Date) : d.day ≤ 31 := by
  have hexists := d.exists_day
  simp only [isDate, Bool.and_eq_true, decide_eq_true_eq] at hexists
  exact Nat.le_trans hexists.2 (daysInMonth_le _ _)

/-- **Reading a date.** It is read up to its end, whatever follows it. -/
theorem scanDate_chars_append (d : Date) (rest : List Char) :
    scanDate dropBlanks (d.chars ++ rest) = some (d, rest) := by
  have hmonth : d.month < 100 := Nat.lt_of_le_of_lt d.month_le (by decide)
  have hday : d.day < 100 := Nat.lt_of_le_of_lt d.day_le (by decide)
  have hparts : Date.ofParts? d.year d.month d.day = some d := dif_pos d.exists_day
  rw [Date.chars, List.append_assoc, List.append_assoc, List.cons_append, scanDate,
    scanYear_yearChars_append]
  simp only [Option.bind_eq_bind, Option.bind_some, scanChar_dropBlanks '-', List.cons_append,
    scanNumber_two hmonth, scanNumber_two hday, hparts]
  rfl

/-! ## Leap seconds -/

namespace Time

/-- Whether a leap second, if the time is in one, is the last of its minute. -/
def leapEndsMinute (t : Time) : Bool := decide (t.nanosecond < 1000000000) || t.second == 59

theorem writtenSecond_le (t : Time) : t.writtenSecond ≤ t.second + 1 := by
  have hnanosecond := t.within_limits.2.2.2
  rw [writtenSecond]
  omega

theorem writtenFraction_lt (t : Time) : t.writtenFraction < 1000000000 :=
  Nat.mod_lt _ (by decide)

/-- What is in no leap second is written as it is. -/
theorem written_of_lt {t : Time} (h : t.nanosecond < 1000000000) :
    t.writtenSecond = t.second ∧ t.writtenFraction = t.nanosecond := by
  rw [writtenSecond, writtenFraction, Nat.div_eq_of_lt h, Nat.mod_eq_of_lt h]
  exact ⟨rfl, rfl⟩

/-- **Settled time.** A leap second that is not the last of its minute is the second behind it. -/
def settled (t : Time) : Time :=
  if h : t.second = 59 then t
  else
    ⟨t.hour, t.minute, t.writtenSecond, t.writtenFraction, by
      have hlimits := t.within_limits
      have hsecond := t.writtenSecond_le
      have hfraction := t.writtenFraction_lt
      omega⟩

/-- **Settled times** are those in no leap second but the last of a minute. -/
theorem settled_eq_self_iff (t : Time) : t.settled = t ↔ t.leapEndsMinute := by
  rw [settled, leapEndsMinute, Bool.or_eq_true, decide_eq_true_eq, beq_iff_eq]
  split
  · rename_i hlast
    exact iff_of_true rfl (.inr hlast)
  · rename_i hlast
    rw [or_iff_left hlast]
    constructor
    · intro heq
      have hsecond : t.writtenSecond = t.second := congrArg second heq
      rw [writtenSecond] at hsecond
      omega
    · intro hlt
      obtain ⟨hsecond, hfraction⟩ := written_of_lt hlt
      simp only [hsecond, hfraction]

/-- The parts that are written are those of the settled time. -/
theorem ofWritten?_written (t : Time) :
    ofWritten? t.hour t.minute t.writtenSecond t.writtenFraction = some t.settled := by
  obtain ⟨hhour, hminute, hsecond, hnanosecond⟩ := t.within_limits
  rw [ofWritten?, settled]
  split
  · -- the second 60 is written for a leap second behind the second 59
    rename_i hsixty
    have hlast : t.second = 59 := by
      have := t.writtenSecond_le
      omega
    have hfraction : 1000000000 + t.writtenFraction = t.nanosecond := by
      rw [writtenSecond, hlast] at hsixty
      rw [writtenFraction]
      omega
    rw [dif_pos hlast, hfraction, ← hlast]
    exact dif_pos t.within_limits
  · rename_i hsixty
    split
    · -- the second 59 is written for itself
      rename_i hlast
      have hlt : t.nanosecond < 1000000000 := by
        rw [writtenSecond, hlast] at hsixty
        omega
      obtain ⟨hwritten, hfraction⟩ := written_of_lt hlt
      rw [hwritten, hfraction]
      exact dif_pos t.within_limits
    · exact dif_pos _

end Time

/-- A point in time with its time settled. -/
def DateTime.settled (t : DateTime) : DateTime := ⟨t.date, t.time.settled⟩

theorem DateTime.settled_eq_self_iff (t : DateTime) :
    t.settled = t ↔ t.time.leapEndsMinute := by
  rw [← Time.settled_eq_self_iff]
  constructor
  · exact congrArg DateTime.time
  · intro htime
    rw [settled, htime]

/-! ## Times -/

theorem scanFraction_padded {places n : Nat} (hpos : 0 < places) (hle : places ≤ 9)
    (h : n < tenTo places) :
    scanFraction ('.' :: padded places n) = some (n * tenTo (9 - places), []) := by
  have hlength : (padded places n).length = places := length_padded hpos h
  have htake : takeDigits 9 (padded places n ++ []) = (padded places n, []) :=
    takeDigits_append (fun c hc => isDigit_of_mem_padded hc) (by rwa [hlength]) (.inr (by simp))
  rw [List.append_nil] at htake
  have hvalue := valueOf_padded places n
  obtain ⟨d, ds, hpadded, -⟩ := padded_eq_cons places n
  rw [scanFraction, htake]
  rw [hpadded] at hvalue hlength ⊢
  simp only [hvalue, hlength, List.dropWhile_nil]

/-- **Reading a fraction.** At the end of a text its digits stand for the billionths again. -/
theorem scanFraction_fractionChars {n : Nat} (h : n < 1000000000) :
    scanFraction (fractionChars n) = some (n, []) := by
  unfold fractionChars
  split
  · rename_i hzero
    rw [hzero]
    rfl
  split
  · -- whole thousandths
    rename_i hmod
    have hsame : n / 1000000 * tenTo (9 - 3) = n := Nat.div_mul_cancel (Nat.dvd_of_mod_eq_zero hmod)
    have hlt : n / 1000000 < tenTo 3 := Nat.div_lt_of_lt_mul h
    rw [scanFraction_padded (by decide) (by decide) hlt, hsame]
  split
  · -- whole millionths
    rename_i hmod
    have hsame : n / 1000 * tenTo (9 - 6) = n := Nat.div_mul_cancel (Nat.dvd_of_mod_eq_zero hmod)
    have hlt : n / 1000 < tenTo 6 := Nat.div_lt_of_lt_mul h
    rw [scanFraction_padded (by decide) (by decide) hlt, hsame]
  · have hsame : n * tenTo (9 - 9) = n := Nat.mul_one n
    rw [scanFraction_padded (by decide) (by decide) h, hsame]

/-- **Reading a time.** At the end of a text it is read as it is settled. -/
theorem scanTime_chars (t : Time) : scanTime t.chars = some (t.settled, []) := by
  obtain ⟨hhour, hminute, hlimit, -⟩ := t.within_limits
  have hsecond := t.writtenSecond_le
  rw [Time.chars, List.append_assoc, List.append_assoc, List.cons_append, scanTime,
    scanNumber_two (by omega)]
  simp only [Option.bind_eq_bind, Option.bind_some, scanChar_dropBlanks ':', List.cons_append,
    scanNumber_two (show t.minute < 100 by omega),
    scanNumber_two (show t.writtenSecond < 100 by omega),
    scanFraction_fractionChars t.writtenFraction_lt, t.ofWritten?_written]
  rfl

/-! ## Whole texts -/

/-- **Reading back a date.** -/
theorem Date.ofText?_text (d : Date) : Date.ofText? d.text = some d := by
  have hscan := scanDate_chars_append d []
  rw [List.append_nil] at hscan
  rw [ofText?, text, String.toList_ofList, hscan]
  rfl

/-- **Reading a point in time.** It is read as it is settled. -/
theorem DateTime.ofText?_chars (t : DateTime) :
    DateTime.ofText? (String.ofList (t.chars 'T')) = some t.settled := by
  rw [ofText?, chars, String.toList_ofList, scanDate_chars_append]
  simp only [Option.bind_eq_bind, Option.bind_some, scanChar_dropBlanks 'T',
    scanTime_chars]
  rfl

end DataGrid.Calendar
