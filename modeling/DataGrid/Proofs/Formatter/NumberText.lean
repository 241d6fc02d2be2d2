import DataGrid.Formatter.Basic
import DataGrid.Proofs.Formatter.Number
import DataGrid.Proofs.Numeric.NormalForm

/-!
# One text for each number

Numbers are written as plain text or by the settings, and they are whole numbers or decimals. All of
these texts are made from normal forms, so they depend on the number alone: how many zeros stand
behind its last place, and whether it is kept as a whole number, makes no difference. Without groups
and with all places, what the settings write is the plain text.

## Main definitions

* `Value.StandsFor`: the values that stand for a number
* `FormatSettings.ShowsAll`: settings that leave a number as it is

## Main results

* `formatDecimal_congr`: one number is written in one way by the settings
* `formatDecimal_of_showsAll`: without groups and with all places the text is plain
* `numberText_of_standsFor`: texts of values that stand for numbers
-/

namespace DataGrid

open Numeric

/-! ## Numbers by the settings -/

/-- Groups without a separator between them are the digits. -/
theorem groupDigits_nil (ds : List Char) : groupDigits [] ds = ds := by
  induction ds with
  | nil => rfl
  | cons c rest ih =>
    rw [groupDigits, ih]
    split <;> rfl

/-- **Settings and numbers.** One number is written in one way. -/
theorem formatDecimal_congr {d d' : Decimal} (h : d.value = d'.value) (settings : FormatSettings) :
    formatDecimal d settings = formatDecimal d' settings := by
  have hrounded : (d.round settings.maxFractionDigits).normalize =
      (d'.round settings.maxFractionDigits).normalize :=
    Decimal.normalize_eq_normalize_iff.mpr (Decimal.value_round_congr h _)
  rw [formatDecimal, hrounded, formatDecimal]

/-- **Settings that show all.** There are no groups, a point stands before the places, and no place
is rounded away. -/
structure FormatSettings.ShowsAll (settings : FormatSettings) : Prop where
  groupingSeparator : settings.groupingSeparator = ""
  decimalSeparator : settings.decimalSeparator = "."
  maxFractionDigits : 28 ≤ settings.maxFractionDigits

/-- Such settings write the normal form. -/
theorem formatDecimal_of_showsAll {settings : FormatSettings} (h : settings.ShowsAll)
    (d : Decimal) : formatDecimal d settings = d.normalize.text := by
  have hround : d.round settings.maxFractionDigits = d :=
    Decimal.round_of_scale_le (d.scale_le.trans h.maxFractionDigits)
  rw [formatDecimal, hround, h.groupingSeparator, h.decimalSeparator, Decimal.text, Decimal.chars]
  congr 2
  exact congrArg _ (groupDigits_nil _)

/-! ## Values -/

/-- **Values for numbers.** The value is a whole number or a decimal, and stands for a number. -/
inductive Value.StandsFor : Value → ℚ → Prop
  | integer (n : Int64) : StandsFor (.integer n) n.toInt
  | decimal (d : Decimal) : StandsFor (.decimal d) d.value

/-- A value for a number has the texts of a decimal for the number. -/
theorem Value.StandsFor.exists_decimal {v : Value} {q : ℚ} (h : v.StandsFor q) :
    ∃ d : Decimal, d.value = q ∧ v.plainText = d.normalize.text ∧
      ∀ (ρ : Type) (row : ρ) (ctx : Context),
        Formatter.number.apply row v ctx = formatDecimal d ctx.settings := by
  cases h with
  | integer n =>
    refine ⟨.ofInt64 n, Decimal.value_ofInt64 n, ?_, fun _ _ _ => rfl⟩
    rw [(Decimal.isNormal_ofInt64 n).normalize_eq, Decimal.text, Decimal.chars_ofInt64, plainText]
  | decimal d => exact ⟨d, rfl, by rw [plainText], fun _ _ _ => rfl⟩

/-- **Texts of numbers.** Decimals for one number are written alike by all settings. The plain texts
of two values for numbers are the same just where the numbers are, and then the values are also
written alike as numbers, whatever the settings. Where the settings show all, this is the plain
text. -/
theorem numberText_of_standsFor :
    (∀ d d' : Decimal, d.value = d'.value →
      ∀ settings, formatDecimal d settings = formatDecimal d' settings) ∧
    ∀ (v w : Value) (q r : ℚ), v.StandsFor q → w.StandsFor r →
      (v.plainText = w.plainText ↔ q = r) ∧
      (q = r → ∀ (ρ : Type) (row : ρ) (ctx : Context),
        Formatter.number.apply row v ctx = Formatter.number.apply row w ctx) ∧
      ∀ (ρ : Type) (row : ρ) (ctx : Context), ctx.settings.ShowsAll →
        Formatter.number.apply row v ctx = v.plainText := by
  refine ⟨fun d d' => formatDecimal_congr, fun v w q r hv hw => ?_⟩
  obtain ⟨d, rfl, htext, hnumber⟩ := hv.exists_decimal
  obtain ⟨d', rfl, htext', hnumber'⟩ := hw.exists_decimal
  refine ⟨?_, fun hsame ρ row ctx => ?_, fun ρ row ctx hall => ?_⟩
  · rw [htext, htext', Decimal.text_normalize_eq_iff]
  · rw [hnumber, hnumber', formatDecimal_congr hsame]
  · rw [hnumber, htext, formatDecimal_of_showsAll hall]

/-- Minus seven as a decimal with four places. -/
def minusSeven : Decimal := ⟨true, 70000, 4, by decide, by decide⟩

/-- The settings that show all and otherwise are the usual ones. -/
def showingAll : FormatSettings := { groupingSeparator := "", maxFractionDigits := 28 }

/-- Minus seven is one text, with places and without them, plain and by the settings. -/
theorem numberText_minusSeven :
    (Decimal.ofInt64 (-7)).value = minusSeven.value ∧
      formatDecimal (.ofInt64 (-7)) {} = formatDecimal minusSeven {} ∧
      (Value.integer (-7)).StandsFor (-7) ∧ (Value.decimal minusSeven).StandsFor (-7) ∧
      (Value.integer (-7)).plainText = (Value.decimal minusSeven).plainText ∧
      Formatter.number.apply () (.integer (-7)) ⟨{}, .echo⟩ =
        Formatter.number.apply () (.decimal minusSeven) ⟨{}, .echo⟩ ∧
      showingAll.ShowsAll ∧
      Formatter.number.apply () (.decimal minusSeven) ⟨showingAll, .echo⟩ = "-7" := by
  have hvalue : minusSeven.value = -7 := by
    norm_num [minusSeven, Decimal.value, Decimal.coefficient, tenTo]
  have hwhole : ((-7 : Int64).toInt : ℚ) = -7 := by
    rw [show (-7 : Int64).toInt = -7 by decide]
    norm_num
  have hinteger : (Value.integer (-7)).StandsFor (-7) := hwhole ▸ .integer (-7)
  have hdecimal : (Value.decimal minusSeven).StandsFor (-7) := hvalue ▸ .decimal minusSeven
  have hall : showingAll.ShowsAll := ⟨rfl, rfl, Nat.le_refl 28⟩
  have hsame : (Decimal.ofInt64 (-7)).value = minusSeven.value := by
    rw [Decimal.value_ofInt64, hwhole, hvalue]
  obtain ⟨hdecimals, hvalues⟩ := numberText_of_standsFor
  obtain ⟨hplain, hnumber, -⟩ := hvalues _ _ _ _ hinteger hdecimal
  obtain ⟨-, -, hshown⟩ := hvalues _ _ _ _ hdecimal hinteger
  refine ⟨hsame, hdecimals _ _ hsame _, hinteger, hdecimal, hplain.mpr rfl, hnumber rfl _ _ _,
    hall, ?_⟩
  rw [hshown _ _ _ hall]
  decide

end DataGrid
