import DataGrid.Proofs.Calendar.Text

/-!
# Bounds of ranges

A bound of a range is a date that someone has written: a year, a month and a day with dashes between
them, where blanks may stand before each of the numbers and nowhere else. Reading finds a date in
just the texts that are written like this, and the written form of every date is one of them.

## Main definitions

* `Date.Before`, `Date.Within`: the order of dates, and dates within two bounds
* `SpellsNumber`, `SpellsYear`, `SpellsDate`: how numbers, years and dates may be written

## Main results

* `Date.atMost_iff`: dates are compared in this order
* `spellsDate_chars`: a date spells itself, whatever its year is
* `Date.ofBound?_eq_some_iff`: a text is read as a bound just where it spells a date
-/

namespace DataGrid.Calendar

open Numeric Text

/-! ## Order -/

namespace Date

variable {a b : Date}

/-- **Earlier dates.** The year is smaller, or in one year the month, or in one month the day. -/
def Before (a b : Date) : Prop :=
  a.year < b.year ∨ a.year = b.year ∧ (a.month < b.month ∨ a.month = b.month ∧ a.day < b.day)

/-- **Dates within bounds.** A date is not before the first bound, and the second one is not before
the date, as far as there are bounds. -/
def Within (start stop : Option Date) (d : Date) : Prop :=
  (∀ bound ∈ start, ¬ d.Before bound) ∧ ∀ bound ∈ stop, ¬ bound.Before d

theorem Before.asymm (h : a.Before b) : ¬ b.Before a := by
  unfold Before at *
  omega

/-- Of an earlier and a later date, one is apart from any third date. -/
theorem Before.cotrans (h : a.Before b) (c : Date) : a.Before c ∨ c.Before b := by
  unfold Before at *
  omega

theorem compare_eq_lt_iff : compare a b = .lt ↔ a.Before b := by
  simp only [compare, Ordering.then_eq_lt, Std.LawfulEqOrd.compare_eq_iff_eq, Std.compare_eq_lt,
    Before]

/-- Of two different dates one is before the other. -/
theorem before_of_not_before (h : ¬ b.Before a) (hne : a ≠ b) : a.Before b := by
  have hswap : compare b a = (compare a b).swap := Std.OrientedCmp.eq_swap
  rw [← compare_eq_lt_iff, hswap] at h
  rw [← compare_eq_lt_iff]
  cases hcompare : compare a b with
  | lt => rfl
  | eq => exact absurd (Std.LawfulEqCmp.eq_of_compare hcompare) hne
  | gt =>
    rw [hcompare] at h
    exact absurd rfl h

/-- **Comparison.** A date is at most another one if that one is not before it. -/
theorem atMost_iff : a.atMost b ↔ ¬ b.Before a := by
  have hswap : compare b a = (compare a b).swap := Std.OrientedCmp.eq_swap
  rw [atMost, ← compare_eq_lt_iff, hswap]
  cases compare a b <;> decide

end Date

/-! ## Written numbers and dates -/

/-- **Written numbers.** Blanks, and then at least one digit and at most `limit` of them. -/
def SpellsNumber (limit : Nat) (s : List Char) (n : Nat) : Prop :=
  ∃ blanks ds, s = blanks ++ ds ∧ (∀ c ∈ blanks, isBlank c) ∧ ds ≠ [] ∧ ds.length ≤ limit ∧
    (∀ c ∈ ds, c.isDigit) ∧ valueOf ds = n

/-- **Written years.** Up to four digits, or a sign and any number of digits. -/
inductive SpellsYear : List Char → Int → Prop
  | plain {s : List Char} {n : Nat} (h : SpellsNumber 4 s n) : SpellsYear s n
  | before {blanks ds : List Char} (hblanks : ∀ c ∈ blanks, isBlank c) (hne : ds ≠ [])
      (hds : ∀ c ∈ ds, c.isDigit) : SpellsYear (blanks ++ '-' :: ds) (-valueOf ds)
  | after {blanks ds : List Char} (hblanks : ∀ c ∈ blanks, isBlank c) (hne : ds ≠ [])
      (hds : ∀ c ∈ ds, c.isDigit) : SpellsYear (blanks ++ '+' :: ds) (valueOf ds)

/-- **Written dates.** The year, the month and the day with dashes between them. -/
def SpellsDate (s : List Char) (d : Date) : Prop :=
  ∃ year month day, s = year ++ '-' :: (month ++ '-' :: day) ∧ SpellsYear year d.year ∧
    SpellsNumber 2 month d.month ∧ SpellsNumber 2 day d.day

theorem spellsNumber_padded {limit width n : Nat} (h : (padded width n).length ≤ limit) :
    SpellsNumber limit (padded width n) n := by
  obtain ⟨c, ds, hpadded, -⟩ := padded_eq_cons width n
  refine ⟨[], padded width n, rfl, List.forall_mem_nil _, ?_, h, fun _ => isDigit_of_mem_padded,
    valueOf_padded width n⟩
  rw [hpadded]
  exact List.cons_ne_nil c ds

theorem spellsYear_yearChars (year : Int) : SpellsYear (yearChars year) year := by
  have hne : padded 4 year.natAbs ≠ [] := by
    obtain ⟨c, ds, hpadded, -⟩ := padded_eq_cons 4 year.natAbs
    rw [hpadded]
    exact List.cons_ne_nil c ds
  have hds : ∀ c ∈ padded 4 year.natAbs, c.isDigit := fun _ => isDigit_of_mem_padded
  have hvalue := valueOf_padded 4 year.natAbs
  rw [yearChars]
  split
  · rename_i hyear
    have hlength : (padded 4 year.natAbs).length = 4 :=
      length_padded (by decide) (show year.natAbs < 10000 by omega)
    have hspells := SpellsYear.plain (spellsNumber_padded (Nat.le_of_eq hlength))
    rwa [show (year.natAbs : Int) = year by omega] at hspells
  · rw [signedPadded]
    split
    · have hspells := SpellsYear.before (List.forall_mem_nil _) hne hds
      rwa [hvalue, show -(year.natAbs : Int) = year by omega] at hspells
    · have hspells := SpellsYear.after (List.forall_mem_nil _) hne hds
      rwa [hvalue, show (year.natAbs : Int) = year by omega] at hspells

/-- **Dates spell themselves**, whatever the year is. -/
theorem spellsDate_chars (d : Date) : SpellsDate d.chars d := by
  have hmonth : (padded 2 d.month).length = 2 :=
    length_padded (by decide) (show d.month < 100 by have := d.month_le; omega)
  have hday : (padded 2 d.day).length = 2 :=
    length_padded (by decide) (show d.day < 100 by have := d.day_le; omega)
  refine ⟨_, _, _, ?_, spellsYear_yearChars d.year, spellsNumber_padded (Nat.le_of_eq hmonth),
    spellsNumber_padded (Nat.le_of_eq hday)⟩
  rw [Date.chars, List.append_assoc]
  rfl

/-! ## Reading numbers and years -/

theorem takeDigits_eq {limit : Nat} {s ds rest : List Char} (h : takeDigits limit s = (ds, rest)) :
    s = ds ++ rest ∧ (∀ c ∈ ds, c.isDigit) ∧ ds.length ≤ limit := by
  induction limit generalizing s ds with
  | zero =>
    cases h
    exact ⟨rfl, List.forall_mem_nil _, Nat.le_refl 0⟩
  | succ limit ih =>
    cases s with
    | nil =>
      cases h
      exact ⟨rfl, List.forall_mem_nil _, Nat.zero_le _⟩
    | cons c s =>
      rw [takeDigits] at h
      split at h
      · rename_i hc
        cases h
        obtain ⟨hs, hds, hlength⟩ := ih (s := s) rfl
        exact ⟨congrArg (c :: ·) hs, List.forall_mem_cons.mpr ⟨hc, hds⟩,
          Nat.succ_le_succ hlength⟩
      · cases h
        exact ⟨rfl, List.forall_mem_nil _, Nat.zero_le _⟩

theorem exists_blanks_append (s : List Char) :
    ∃ blanks, s = blanks ++ dropBlanks s ∧ ∀ c ∈ blanks, isBlank c :=
  ⟨s.takeWhile isBlank, List.takeWhile_append_dropWhile.symm,
    fun _ hc => List.all_eq_true.mp List.all_takeWhile _ hc⟩

/-- Blanks are dropped up to a character that is none. -/
theorem dropBlanks_append_cons {blanks s : List Char} {c : Char}
    (hblanks : ∀ c ∈ blanks, isBlank c) (hc : isBlank c = false) :
    dropBlanks (blanks ++ c :: s) = c :: s := by
  rw [dropBlanks, List.dropWhile_append_of_pos hblanks, List.dropWhile_cons_of_neg (by simp [hc])]

/-- **What is read as a number.** -/
theorem exists_spellsNumber_of_scanNumber {limit n : Nat} {s rest : List Char}
    (h : scanNumber limit s = some (n, rest)) :
    ∃ part, s = part ++ rest ∧ SpellsNumber limit part n := by
  obtain ⟨blanks, hs, hblanks⟩ := exists_blanks_append s
  cases htake : takeDigits limit (dropBlanks s) with
  | mk ds after =>
    obtain ⟨hdrop, hds, hlength⟩ := takeDigits_eq htake
    rw [scanNumber, htake] at h
    cases ds with
    | nil => cases h
    | cons c ds =>
      cases h
      refine ⟨blanks ++ c :: ds, ?_, blanks, c :: ds, rfl, hblanks, List.cons_ne_nil c ds, hlength,
        hds, rfl⟩
      rw [List.append_assoc, ← hdrop, ← hs]

theorem SpellsNumber.append_blanks {limit n : Nat} {s blanks : List Char}
    (h : SpellsNumber limit s n) (hblanks : ∀ c ∈ blanks, isBlank c) :
    SpellsNumber limit (blanks ++ s) n := by
  obtain ⟨inner, ds, rfl, hinner, hrest⟩ := h
  exact ⟨blanks ++ inner, ds, (List.append_assoc _ _ _).symm,
    List.forall_mem_append.mpr ⟨hblanks, hinner⟩, hrest⟩

/-- **Reading a number.** A written number is read up to its end if no digit follows. -/
theorem scanNumber_of_spellsNumber {limit n : Nat} {part rest : List Char}
    (h : SpellsNumber limit part n) (hrest : ∀ c ∈ rest.head?, ¬ c.isDigit) :
    scanNumber limit (part ++ rest) = some (n, rest) := by
  obtain ⟨blanks, ds, rfl, hblanks, hne, hlength, hds, rfl⟩ := h
  obtain ⟨c, ds, rfl⟩ := List.exists_cons_of_ne_nil hne
  have hc : isBlank c = false := isBlank_of_isDigit (hds c List.mem_cons_self)
  have htake := takeDigits_append hds hlength (.inr hrest)
  rw [List.append_assoc, List.cons_append, scanNumber, dropBlanks_append_cons hblanks hc,
    ← List.cons_append, htake]

theorem exists_digits_of_signedYear {sign year : Int} {s rest : List Char}
    (h : scanYear.signedYear sign s = some (year, rest)) :
    ∃ ds, s = ds ++ rest ∧ ds ≠ [] ∧ (∀ c ∈ ds, c.isDigit) ∧ year = sign * valueOf ds := by
  cases htake : takeDigits s.length s with
  | mk ds after =>
    obtain ⟨hs, hds, -⟩ := takeDigits_eq htake
    rw [scanYear.signedYear, htake] at h
    cases ds with
    | nil => cases h
    | cons c ds =>
      cases h
      exact ⟨c :: ds, hs, List.cons_ne_nil c ds, hds, rfl⟩

theorem signedYear_append {sign : Int} {ds rest : List Char} (hne : ds ≠ [])
    (hds : ∀ c ∈ ds, c.isDigit) (hrest : ∀ c ∈ rest.head?, ¬ c.isDigit) :
    scanYear.signedYear sign (ds ++ rest) = some (sign * valueOf ds, rest) := by
  have hlength : ds.length ≤ (ds ++ rest).length := by
    rw [List.length_append]
    exact Nat.le_add_right _ _
  have htake := takeDigits_append hds hlength (.inr hrest)
  obtain ⟨c, ds, rfl⟩ := List.exists_cons_of_ne_nil hne
  rw [scanYear.signedYear, htake]

/-- **What is read as a year.** -/
theorem exists_spellsYear_of_scanYear {year : Int} {s rest : List Char}
    (h : scanYear s = some (year, rest)) : ∃ part, s = part ++ rest ∧ SpellsYear part year := by
  obtain ⟨blanks, hs, hblanks⟩ := exists_blanks_append s
  unfold scanYear at h
  split at h
  · rename_i after hdrop
    obtain ⟨ds, rfl, hne, hds, rfl⟩ := exists_digits_of_signedYear h
    refine ⟨blanks ++ '-' :: ds, ?_, ?_⟩
    · rw [hs, hdrop, List.append_assoc, List.cons_append]
    · rw [Int.neg_one_mul]
      exact .before hblanks hne hds
  · rename_i after hdrop
    obtain ⟨ds, rfl, hne, hds, rfl⟩ := exists_digits_of_signedYear h
    refine ⟨blanks ++ '+' :: ds, ?_, ?_⟩
    · rw [hs, hdrop, List.append_assoc, List.cons_append]
    · rw [Int.one_mul]
      exact .after hblanks hne hds
  · -- without a sign the digits are those of a number
    obtain ⟨⟨n, after⟩, hscan, heq⟩ := Option.map_eq_some_iff.mp h
    cases heq
    obtain ⟨part, hpart, hspells⟩ := exists_spellsNumber_of_scanNumber hscan
    refine ⟨blanks ++ part, ?_, .plain (hspells.append_blanks hblanks)⟩
    rw [List.append_assoc, ← hpart, ← hs]

/-- **Reading a year.** A written year is read up to its end if no digit follows. -/
theorem scanYear_of_spellsYear {year : Int} {part rest : List Char} (h : SpellsYear part year)
    (hrest : ∀ c ∈ rest.head?, ¬ c.isDigit) : scanYear (part ++ rest) = some (year, rest) := by
  cases h with
  | @plain _ n h =>
    obtain ⟨blanks, ds, rfl, hblanks, hne, hlength, hds, hvalue⟩ := h
    have hread : scanNumber 4 (ds ++ rest) = some (n, rest) :=
      scanNumber_of_spellsNumber ⟨[], ds, rfl, List.forall_mem_nil _, hne, hlength, hds, hvalue⟩
        hrest
    obtain ⟨c, ds, rfl⟩ := List.exists_cons_of_ne_nil hne
    have hc : c.isDigit := hds c List.mem_cons_self
    rw [List.append_assoc]
    unfold scanYear
    rw [List.cons_append, dropBlanks_append_cons hblanks (isBlank_of_isDigit hc)]
    split
    · -- a digit is no sign
      rename_i heq
      obtain ⟨rfl, -⟩ := List.cons.inj heq
      exact absurd hc (by decide)
    · rename_i heq
      obtain ⟨rfl, -⟩ := List.cons.inj heq
      exact absurd hc (by decide)
    · rw [← List.cons_append, hread]
      rfl
  | @before blanks ds hblanks hne hds =>
    rw [List.append_assoc, List.cons_append]
    unfold scanYear
    rw [dropBlanks_append_cons hblanks (by decide)]
    simp only [signedYear_append hne hds hrest, Int.neg_one_mul]
  | @after blanks ds hblanks hne hds =>
    rw [List.append_assoc, List.cons_append]
    unfold scanYear
    rw [dropBlanks_append_cons hblanks (by decide)]
    simp only [signedYear_append hne hds hrest, Int.one_mul]

/-! ## Reading dates -/

theorem scanChar_eq_some_iff {c : Char} {s rest : List Char} :
    scanChar c s = some rest ↔ s = c :: rest := by
  cases s with
  | nil => exact iff_of_false (fun h => nomatch h) (fun h => nomatch h)
  | cons d s =>
    rw [scanChar, Option.ite_none_right_eq_some, Option.some.injEq, List.cons.injEq]

theorem Date.ofParts?_eq_some_iff {year : Int} {month day : Nat} {d : Date} :
    Date.ofParts? year month day = some d ↔ d.year = year ∧ d.month = month ∧ d.day = day := by
  rw [ofParts?]
  constructor
  · intro h
    split at h
    · cases h
      exact ⟨rfl, rfl, rfl⟩
    · cases h
  · rintro ⟨rfl, rfl, rfl⟩
    exact dif_pos d.exists_day

/-- **What is read as a date.** -/
theorem exists_spellsDate_of_scanDate {s rest : List Char} {d : Date}
    (h : scanDate id s = some (d, rest)) : ∃ part, s = part ++ rest ∧ SpellsDate part d := by
  obtain ⟨⟨year, s₁⟩, hscanYear, h⟩ := Option.bind_eq_some_iff.mp h
  obtain ⟨s₂, hdash, h⟩ := Option.bind_eq_some_iff.mp h
  obtain ⟨⟨month, s₃⟩, hscanMonth, h⟩ := Option.bind_eq_some_iff.mp h
  obtain ⟨s₄, hdash', h⟩ := Option.bind_eq_some_iff.mp h
  obtain ⟨⟨day, s₅⟩, hscanDay, h⟩ := Option.bind_eq_some_iff.mp h
  obtain ⟨date, hdate, h⟩ := Option.bind_eq_some_iff.mp h
  cases h
  obtain ⟨rfl, rfl, rfl⟩ := Date.ofParts?_eq_some_iff.mp hdate
  obtain ⟨yearPart, rfl, hyear⟩ := exists_spellsYear_of_scanYear hscanYear
  obtain rfl := scanChar_eq_some_iff.mp hdash
  obtain ⟨monthPart, rfl, hmonth⟩ := exists_spellsNumber_of_scanNumber hscanMonth
  obtain rfl := scanChar_eq_some_iff.mp hdash'
  obtain ⟨dayPart, rfl, hday⟩ := exists_spellsNumber_of_scanNumber hscanDay
  refine ⟨yearPart ++ '-' :: (monthPart ++ '-' :: dayPart), ?_, yearPart, monthPart, dayPart, rfl,
    hyear, hmonth, hday⟩
  simp only [List.append_assoc, List.cons_append]

/-- **Reading a date.** A written date is read up to its end if no digit follows. -/
theorem scanDate_of_spellsDate {part rest : List Char} {d : Date} (h : SpellsDate part d)
    (hrest : ∀ c ∈ rest.head?, ¬ c.isDigit) : scanDate id (part ++ rest) = some (d, rest) := by
  obtain ⟨year, month, day, rfl, hyear, hmonth, hday⟩ := h
  have hdash : ∀ s : List Char, ∀ c ∈ ('-' :: s).head?, ¬ c.isDigit := by simp
  have hparts : Date.ofParts? d.year d.month d.day = some d :=
    Date.ofParts?_eq_some_iff.mpr ⟨rfl, rfl, rfl⟩
  rw [List.append_assoc, List.cons_append, List.append_assoc, List.cons_append, scanDate,
    scanYear_of_spellsYear hyear (hdash _)]
  simp only [Option.bind_eq_bind, Option.bind_some, id_eq, scanChar_eq_some_iff.mpr rfl]
  rw [scanNumber_of_spellsNumber hmonth (hdash _)]
  simp only [Option.bind_some, scanChar_eq_some_iff.mpr rfl]
  rw [scanNumber_of_spellsNumber hday hrest]
  simp only [Option.bind_some, hparts]
  rfl

/-- **Reading a bound.** A text is read as a bound just where it spells a date. -/
theorem Date.ofBound?_eq_some_iff {s : String} {d : Date} :
    Date.ofBound? s = some d ↔ SpellsDate s.toList d := by
  constructor
  · intro h
    obtain ⟨⟨date, rest⟩, hscan, hend⟩ := Option.bind_eq_some_iff.mp h
    obtain ⟨hnil, heq⟩ := Option.ite_none_right_eq_some.mp hend
    cases heq
    obtain ⟨part, hpart, hspells⟩ := exists_spellsDate_of_scanDate hscan
    rwa [hpart, List.isEmpty_iff.mp hnil, List.append_nil]
  · intro h
    have hscan : scanDate id (s.toList ++ []) = some (d, []) :=
      scanDate_of_spellsDate h (by simp)
    rw [List.append_nil] at hscan
    rw [ofBound?, hscan]
    rfl

/-- Blanks are skipped in front of numbers, and a year with a sign may have any digits. -/
example : Date.ofBound? " 2024- 6-1" = some ⟨2024, 6, 1, by decide⟩ ∧
    Date.ofBound? "-0044-03-15" = some ⟨-44, 3, 15, by decide⟩ ∧
    Date.ofBound? "2024 -06-01" = none := by decide +kernel

end DataGrid.Calendar
