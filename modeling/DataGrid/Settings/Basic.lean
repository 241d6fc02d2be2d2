/-!
# Settings

How cells are written and when filters are offered. A missing setting has a default.

## Main definitions

* `FormatSettings`, `FilterSettings`: the two sections
* `TableSettings`: both together
* `FormatSettings.names`, `FilterSettings.names`: the names of the settings in files, in order
-/

namespace DataGrid

/-- **Format settings.** -/
structure FormatSettings where
  /-- Shown where there is nothing to show. -/
  emptyPlaceholder : String := "<i class=\"text-muted\">-</i>"
  booleanTrue : String := "<span class=\"fa fa-check-square-o\"></span>"
  booleanFalse : String := "<span class=\"fa fa-square-o\"></span>"
  datePattern : String := "%d/%m/%Y"
  datetimePattern : String := "%d/%m/%Y %H:%M"
  decimalSeparator : String := "."
  groupingSeparator : String := "'"
  maxFractionDigits : Nat := 2
  listSeparator : String := ", "
  /-- Shown in place of a missing image. -/
  imagePlaceholder : String := "<span class=\"fa fa-picture-o text-muted\"></span>"
  deriving Repr, DecidableEq

/-- **Filter settings.** -/
structure FilterSettings where
  /-- A selection with fewer options is not offered. -/
  minSelectOptions : Nat := 1
  deriving Repr, DecidableEq

/-- **Table settings.** -/
structure TableSettings where
  format : FormatSettings := {}
  filter : FilterSettings := {}
  deriving Repr, DecidableEq

/-- The names of the format settings. -/
def FormatSettings.names : List String :=
  ["empty_placeholder", "boolean_true", "boolean_false", "date_pattern", "datetime_pattern",
    "decimal_separator", "grouping_separator", "max_fraction_digits", "list_separator",
    "image_placeholder"]

/-- The names of the filter settings. -/
def FilterSettings.names : List String := ["min_select_options"]

end DataGrid
