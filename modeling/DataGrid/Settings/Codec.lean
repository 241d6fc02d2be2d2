import DataGrid.Json.Decoder
import DataGrid.Json.Writer
import DataGrid.Settings.Basic

/-!
# Settings as JSON

## Main definitions

* `TableSettings.encode`: the JSON form, with all settings
* `TableSettings.decode`: reading; missing settings take their defaults
-/

namespace DataGrid

open Json Numeric

/-- The JSON form of format settings. -/
def FormatSettings.encode (s : FormatSettings) : Json :=
  .object [
    ("empty_placeholder", .string s.emptyPlaceholder),
    ("boolean_true", .string s.booleanTrue),
    ("boolean_false", .string s.booleanFalse),
    ("date_pattern", .string s.datePattern),
    ("datetime_pattern", .string s.datetimePattern),
    ("decimal_separator", .string s.decimalSeparator),
    ("grouping_separator", .string s.groupingSeparator),
    ("max_fraction_digits", Json.int s.maxFractionDigits),
    ("list_separator", .string s.listSeparator),
    ("image_placeholder", .string s.imagePlaceholder)]

/-- The JSON form of filter settings. -/
def FilterSettings.encode (s : FilterSettings) : Json :=
  .object [("min_select_options", Json.int s.minSelectOptions)]

/-- **JSON form of settings.** -/
def TableSettings.encode (s : TableSettings) : Json :=
  .object [("format", s.format.encode), ("filter", s.filter.encode)]

/-- Reading format settings. The number of digits has 32 bits. -/
def FormatSettings.decode : Decoder FormatSettings :=
  let d : FormatSettings := {}
  Decoder.record names fun m =>
    FormatSettings.mk <$> m.withDefault "empty_placeholder" d.emptyPlaceholder Decoder.text <*>
      m.withDefault "boolean_true" d.booleanTrue Decoder.text <*>
      m.withDefault "boolean_false" d.booleanFalse Decoder.text <*>
      m.withDefault "date_pattern" d.datePattern Decoder.text <*>
      m.withDefault "datetime_pattern" d.datetimePattern Decoder.text <*>
      m.withDefault "decimal_separator" d.decimalSeparator Decoder.text <*>
      m.withDefault "grouping_separator" d.groupingSeparator Decoder.text <*>
      m.withDefault "max_fraction_digits" d.maxFractionDigits
        (Decoder.natural (twoTo 32 - 1)) <*>
      m.withDefault "list_separator" d.listSeparator Decoder.text <*>
      m.withDefault "image_placeholder" d.imagePlaceholder Decoder.text

/-- Reading filter settings. The number of options has 64 bits. -/
def FilterSettings.decode : Decoder FilterSettings :=
  Decoder.record names fun m =>
    FilterSettings.mk <$>
      m.withDefault "min_select_options" ({} : FilterSettings).minSelectOptions
        (Decoder.natural (twoTo 64 - 1))

/-- **Reading settings.** -/
def TableSettings.decode : Decoder TableSettings :=
  Decoder.record ["format", "filter"] fun m =>
    TableSettings.mk <$> m.withDefault "format" {} FormatSettings.decode <*>
      m.withDefault "filter" {} FilterSettings.decode

end DataGrid
