import DataGrid.Formatter.Number
import DataGrid.Proofs.Numeric.DecimalText
import DataGrid.Proofs.Numeric.NearestEven
import Mathlib.Data.List.Basic

/-!
# Grouped numbers

A number is written in parts: a minus sign, the whole digits in groups, and the places. The groups
are the digits cut from the right, the places end in no zero, and all digits together make up the
number rounded half to even.

## Main definitions

* `digitGroups`: digits cut into groups of three from the right
* `WrittenNumber`: the parts that a number is written in
* `WrittenNumber.IsProper`: parts of the right sizes without superfluous zeros or sign

## Main results

* `groupDigits_eq_intercalate`: grouped digits are the groups with the separator between them
* `exists_digitGroups_eq`: the sizes of groups
* `WrittenNumber.isProper_ofDecimal`: the parts of a decimal in normal form
* `formatDecimal_writesNearestEven`: what a number is written as
-/

namespace DataGrid

open Numeric

/-! ## Groups of digits -/

/-- **Groups.** Digits cut into groups of three from the right. -/
def digitGroups : List Char → List (List Char)
  | [] => []
  | c :: rest =>
    match digitGroups rest with
    | [] => [[c]]
    | group :: groups =>
      if rest.length % 3 = 0 then [c] :: group :: groups else (c :: group) :: groups

theorem digitGroups_eq_nil_iff {ds : List Char} : digitGroups ds = [] ↔ ds = [] := by
  cases ds with
  | nil => exact iff_of_true rfl rfl
  | cons c rest =>
    rw [digitGroups]
    split
    · simp
    · split <;> simp

/-- No digit is lost or moved. -/
theorem flatten_digitGroups (ds : List Char) : (digitGroups ds).flatten = ds := by
  induction ds with
  | nil => rfl
  | cons c rest ih =>
    rw [digitGroups]
    split
    · rename_i hnil
      rw [digitGroups_eq_nil_iff.mp hnil]
      rfl
    · rename_i group groups hgroups
      rw [hgroups] at ih
      rw [← ih]
      split <;> rfl

/-- **Grouping.** Grouped digits are the groups with the separator between them. -/
theorem groupDigits_eq_intercalate (separator ds : List Char) :
    groupDigits separator ds = separator.intercalate (digitGroups ds) := by
  induction ds with
  | nil => rfl
  | cons c rest ih =>
    rw [groupDigits, digitGroups]
    cases hgroups : digitGroups rest with
    | nil =>
      obtain rfl := digitGroups_eq_nil_iff.mp hgroups
      rfl
    | cons group groups =>
      have hne : rest ≠ [] := by
        rw [Ne, ← digitGroups_eq_nil_iff, hgroups]
        exact List.cons_ne_nil group groups
      rw [ih, hgroups]
      dsimp only
      by_cases hfull : rest.length % 3 = 0
      · -- the group to the right is full, so the digit begins a new one
        rw [if_pos ⟨hne, hfull⟩, if_pos hfull, List.intercalate_cons_cons]
        rfl
      · rw [if_neg fun h => hfull h.2, if_neg hfull]
        cases groups with
        | nil => rfl
        | cons next groups => rw [List.intercalate_cons_cons, List.intercalate_cons_cons]; rfl

/-- **Sizes of groups.** The first group has the digits that are left over, and all others have
three. -/
theorem exists_digitGroups_eq {ds : List Char} (h : ds ≠ []) :
    ∃ first others, digitGroups ds = first :: others ∧
      first.length = (ds.length - 1) % 3 + 1 ∧ ∀ group ∈ others, group.length = 3 := by
  induction ds with
  | nil => exact absurd rfl h
  | cons c rest ih =>
    rw [digitGroups]
    by_cases hrest : rest = []
    · subst hrest
      exact ⟨[c], [], rfl, rfl, fun _ hmem => nomatch hmem⟩
    obtain ⟨first, others, hgroups, hfirst, hothers⟩ := ih hrest
    have hpos : 0 < rest.length := List.length_pos_of_ne_nil hrest
    rw [hgroups]
    simp only [List.length_cons]
    split
    · -- the group to the right is full
      refine ⟨[c], first :: others, rfl, ?_, ?_⟩
      · rw [List.length_singleton]
        omega
      · intro group hgroup
        rcases List.mem_cons.mp hgroup with rfl | hgroup
        · omega
        · exact hothers group hgroup
    · refine ⟨c :: first, others, rfl, ?_, hothers⟩
      rw [List.length_cons]
      omega

/-! ## Written numbers -/

/-- **Written number.** The parts that a number is written in. -/
structure WrittenNumber where
  negative : Bool
  groups : List (List Char)
  places : List Char

namespace WrittenNumber

/-- The characters of a written number, with the separators of the settings. -/
def chars (settings : FormatSettings) (w : WrittenNumber) : List Char :=
  (if w.negative then ['-'] else []) ++ settings.groupingSeparator.toList.intercalate w.groups ++
    (if w.places = [] then [] else settings.decimalSeparator.toList ++ w.places)

/-- The number that is read from the digits. -/
def value (w : WrittenNumber) : ℚ :=
  Decimal.signFactor w.negative * valueOf (w.groups.flatten ++ w.places) / tenTo w.places.length

/-- **Proper parts.** The first group has one to three digits and all others have three. The first
digit is no zero unless it stands alone. The places, at most as many as the limit says, do not end
in a zero. There is a minus sign if and only if the number is below zero. -/
structure IsProper (limit : Nat) (w : WrittenNumber) : Prop where
  isDigit : ∀ c ∈ w.groups.flatten ++ w.places, c.isDigit
  sizes : ∃ first others, w.groups = first :: others ∧ 1 ≤ first.length ∧ first.length ≤ 3 ∧
    ∀ group ∈ others, group.length = 3
  leading : w.groups.flatten.head? = some '0' → w.groups = [['0']]
  places_le : w.places.length ≤ limit
  ending : w.places.getLast? ≠ some '0'
  negative_iff : w.negative ↔ w.value < 0

/-- The parts that a decimal is written in. -/
def ofDecimal (d : Decimal) : WrittenNumber :=
  ⟨d.negative, digitGroups d.wholeDigits, d.placeDigits⟩

theorem chars_ofDecimal (settings : FormatSettings) (d : Decimal) :
    (ofDecimal d).chars settings =
      (if d.negative then ['-'] else []) ++
        groupDigits settings.groupingSeparator.toList d.wholeDigits ++
        (if d.scale = 0 then [] else settings.decimalSeparator.toList ++ d.placeDigits) := by
  have hplaces : (ofDecimal d).places = [] ↔ d.scale = 0 := by
    rw [← d.length_placeDigits, List.length_eq_zero_iff, ofDecimal]
  rw [chars, groupDigits_eq_intercalate]
  by_cases hscale : d.scale = 0
  · rw [if_pos hscale, if_pos (hplaces.mpr hscale)]
    rfl
  · rw [if_neg hscale, if_neg (mt hplaces.mp hscale)]
    rfl

/-- The digits of a decimal make up its number. -/
theorem value_ofDecimal (d : Decimal) : (ofDecimal d).value = d.value := by
  have hsize : valueOf (d.wholeDigits ++ d.placeDigits) = d.size := by
    have hwhole : Nat.ofDigitChars 10 d.wholeDigits 0 = d.size / tenTo d.scale := valueOf_digits _
    rw [valueOf, Nat.ofDigitChars_append, hwhole, d.ofDigitChars_placeDigits]
  rw [value, ofDecimal, flatten_digitGroups, hsize, d.length_placeDigits,
    Decimal.value_eq_signFactor]
  push_cast
  rfl

/-- The places of a normal decimal do not end in a zero. -/
theorem getLast?_placeDigits_ne {d : Decimal} (h : d.IsNormal) :
    d.placeDigits.getLast? ≠ some '0' := by
  rw [Decimal.placeDigits]
  split
  · simp
  rename_i hscale
  obtain ⟨k, hk⟩ := Nat.exists_eq_succ_of_ne_zero hscale
  -- the last digit of the places is that of the size
  have hlast : d.size % tenTo d.scale % 10 = d.size % 10 := by
    rw [hk, tenTo_succ]
    exact Nat.mod_mul_left_mod _ _ _
  rw [getLast?_padded, hlast]
  intro hzero
  have hend := h.scale_eq_zero_or.resolve_left hscale
  exact digitChar_ne_zero _ (Nat.mod_lt _ (by decide)) (Nat.pos_of_ne_zero hend)
    (Option.some.inj hzero)

/-- **Parts of a normal decimal.** They are proper. -/
theorem isProper_ofDecimal {d : Decimal} (h : d.IsNormal) {limit : Nat} (hlimit : d.scale ≤ limit) :
    (ofDecimal d).IsProper limit where
  isDigit := by
    intro c hc
    rw [ofDecimal, flatten_digitGroups] at hc
    rcases List.mem_append.mp hc with hc | hc
    · exact isDigit_of_mem_digits hc
    · exact d.isDigit_of_mem_placeDigits hc
  sizes := by
    obtain ⟨first, others, hgroups, hfirst, hothers⟩ :=
      exists_digitGroups_eq (Nat.toDigits_ne_nil : d.wholeDigits ≠ [])
    exact ⟨first, others, hgroups, by omega, by omega, hothers⟩
  leading := by
    intro hzero
    rw [ofDecimal, flatten_digitGroups] at hzero
    obtain ⟨c, cs, hdigits, -, -, halone⟩ := digits_eq_cons (d.size / tenTo d.scale)
    have hwhole : d.wholeDigits = c :: cs := hdigits
    rw [hwhole] at hzero
    obtain rfl : c = '0' := Option.some.inj hzero
    rw [ofDecimal, hwhole, halone rfl]
    rfl
  places_le := by
    rw [ofDecimal, d.length_placeDigits]
    exact hlimit
  ending := getLast?_placeDigits_ne h
  negative_iff := by
    rw [value_ofDecimal]
    exact h.negative_iff

end WrittenNumber

/-- The text of a number is made of the parts of its rounded normal form. -/
theorem toList_formatDecimal (d : Decimal) (settings : FormatSettings) :
    (formatDecimal d settings).toList =
      (WrittenNumber.ofDecimal (d.round settings.maxFractionDigits).normalize).chars settings := by
  rw [formatDecimal, String.toList_ofList, WrittenNumber.chars_ofDecimal]

/-- **Numbers.** A number is written in proper parts, and these stand for the number rounded half to
even to the places of the settings, which is one number. -/
theorem formatDecimal_writesNearestEven (d : Decimal) (settings : FormatSettings) :
    ∃ w : WrittenNumber, (formatDecimal d settings).toList = w.chars settings ∧
      w.IsProper settings.maxFractionDigits ∧
      ∀ r, IsNearestEven settings.maxFractionDigits d.value r ↔ r = w.value := by
  have hvalue := WrittenNumber.value_ofDecimal (d.round settings.maxFractionDigits).normalize
  have hround := d.isNearestEven_round settings.maxFractionDigits
  rw [Decimal.value_normalize] at hvalue
  refine ⟨_, toList_formatDecimal d settings, ?_, fun r => ⟨fun hr => ?_, ?_⟩⟩
  · -- rounding leaves no more places than the limit, and the normal form no more than rounding
    refine WrittenNumber.isProper_ofDecimal (Decimal.isNormal_normalize _) ?_
    exact (Decimal.scale_normalize_le _).trans (d.scale_round_le _)
  · rw [hvalue]
    exact hr.unique hround
  · rintro rfl
    rwa [hvalue]

/-- Half a cent is rounded to the even one, and a number that is rounded to zero has no sign. -/
example : formatDecimal ⟨true, 1234567125, 3, by decide, by decide⟩ {} = "-1'234'567.12" ∧
    formatDecimal ⟨true, 5, 3, by decide, by decide⟩ {} = "0" := by decide

end DataGrid
