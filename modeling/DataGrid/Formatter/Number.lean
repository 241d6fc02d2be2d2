import DataGrid.Numeric.DecimalText
import DataGrid.Settings.Basic

/-!
# Grouped numbers

Numbers are rounded, and their whole digits are set in groups of three from the right.

## Main definitions

* `groupDigits`: digits with a separator between groups of three
* `formatDecimal`: a number by the settings
-/

namespace DataGrid

open Numeric

/-- Digits with a separator before each group of three but the first. -/
def groupDigits (separator : List Char) : List Char → List Char
  | [] => []
  | c :: rest =>
    if rest ≠ [] ∧ rest.length % 3 = 0 then c :: separator ++ groupDigits separator rest
    else c :: groupDigits separator rest

/-- **Number.** A decimal rounded to the places of the settings, without trailing zeros, with
the separators of the settings, and with a minus sign if it is still below zero. -/
def formatDecimal (d : Decimal) (settings : FormatSettings) : String :=
  let rounded := (d.round settings.maxFractionDigits).normalize
  String.ofList <|
    (if rounded.negative then ['-'] else []) ++
      groupDigits settings.groupingSeparator.toList rounded.wholeDigits ++
      (if rounded.scale = 0 then []
        else settings.decimalSeparator.toList ++ rounded.placeDigits)

end DataGrid
