import DataGrid.Settings.Basic
import DataGrid.Toml.Reader

/-!
# Settings in files

Settings are kept in TOML files, in the tables `format` and `filter`. Whatever else a file
holds is passed over if its numerals stand for numbers; a setting of the wrong kind is not.

## Main definitions

* `TableSettings.ofToml?`: the settings in a text
* `SettingsError`, `TableSettings.ofFile`: the settings in a file
-/

namespace DataGrid

open Numeric (twoTo)

/-- The members of a section. Items of an array are taken for the settings in order, and
nobody looks at those left over; a point in time holds none. -/
def sectionMembers? (names : List String) : Toml.Value → Option (List (String × Toml.Value))
  | .table members => if Toml.Value.membersAreReadable members then some members else none
  | .array items => some (names.zip items)
  | .moment _ => some []
  | _ => none

/-- The text of a setting. -/
def textSetting? (members : List (String × Toml.Value)) (name default : String) :
    Option String :=
  match members.lookup name with
  | none => some default
  | some (.text s) => some s
  | some _ => none

/-- The number of a setting, which has a limit. -/
def countSetting? (limit : Nat) (members : List (String × Toml.Value)) (name : String)
    (default : Nat) : Option Nat :=
  match members.lookup name with
  | none => some default
  | some (.integer n) => if 0 ≤ n ∧ n < limit then some n.toNat else none
  | some _ => none

/-- The format settings of a section. The number of digits has 32 bits. -/
def FormatSettings.ofToml? (table : Toml.Value) : Option FormatSettings := do
  let m ← sectionMembers? names table
  let d : FormatSettings := {}
  return {
    emptyPlaceholder := ← textSetting? m "empty_placeholder" d.emptyPlaceholder
    booleanTrue := ← textSetting? m "boolean_true" d.booleanTrue
    booleanFalse := ← textSetting? m "boolean_false" d.booleanFalse
    datePattern := ← textSetting? m "date_pattern" d.datePattern
    datetimePattern := ← textSetting? m "datetime_pattern" d.datetimePattern
    decimalSeparator := ← textSetting? m "decimal_separator" d.decimalSeparator
    groupingSeparator := ← textSetting? m "grouping_separator" d.groupingSeparator
    maxFractionDigits := ← countSetting? (twoTo 32) m "max_fraction_digits" d.maxFractionDigits
    listSeparator := ← textSetting? m "list_separator" d.listSeparator
    imagePlaceholder := ← textSetting? m "image_placeholder" d.imagePlaceholder }

/-- The filter settings of a section. The number of options has 64 bits. -/
def FilterSettings.ofToml? (table : Toml.Value) : Option FilterSettings := do
  let m ← sectionMembers? names table
  let d : FilterSettings := {}
  return { minSelectOptions := ←
    countSetting? (twoTo 64) m "min_select_options" d.minSelectOptions }

/-- **Settings in a text.** Absent if the text is not TOML or a setting is of the wrong
kind. -/
def TableSettings.ofToml? (text : String) : Option TableSettings := do
  let members ← Toml.read? text
  let format ← match members.lookup "format" with
    | none => some {}
    | some v => FormatSettings.ofToml? v
  let filter ← match members.lookup "filter" with
    | none => some {}
    | some v => FilterSettings.ofToml? v
  let others := members.filter fun (name, _) => name != "format" && name != "filter"
  if Toml.Value.membersAreReadable others then some ⟨format, filter⟩ else none

/-- Why settings cannot be read from a file. -/
inductive SettingsError where
  /-- There is no file, or it does not hold a text. -/
  | unreadable
  /-- The text does not hold settings. -/
  | malformed
  deriving Repr, DecidableEq

/-- **Settings in a file,** given its bytes if it exists. -/
def TableSettings.ofFile (content : Option ByteArray) : Except SettingsError TableSettings :=
  match content.bind String.fromUTF8? with
  | none => .error .unreadable
  | some text =>
    match TableSettings.ofToml? text with
    | none => .error .malformed
    | some settings => .ok settings

end DataGrid
