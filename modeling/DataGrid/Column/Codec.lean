import DataGrid.Column.Basic
import DataGrid.Json.Decoder
import DataGrid.Json.Writer

/-!
# Sorters as JSON

## Main definitions

* `Sorter.name`, `Sorter.decode`: the written form of a sorter, and reading it
-/

namespace DataGrid

open Json

/-- The name of a sorter. -/
def Sorter.name : Sorter → String
  | none => "NONE"
  | sorted => "SORTED"
  | unsorted => "UNSORTED"

/-- The sorter with a name. -/
def Sorter.ofName? (name : String) : Option Sorter :=
  [Sorter.none, .sorted, .unsorted].find? (·.name == name)

/-- Reading a sorter. -/
def Sorter.decode : Decoder Sorter := Decoder.choice Sorter.ofName?

end DataGrid
