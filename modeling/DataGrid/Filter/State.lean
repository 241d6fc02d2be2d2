import DataGrid.Filter.Descriptor

/-!
# Filter states

A state is what a user has selected, column by column.

## Main definitions

* `ColumnState`, `FilterState`: the selection for one column and for all
* `FilterState.hiddenColumns`: the columns that are not shown
* `FilterState.encode`, `FilterState.decode`: the JSON form
-/

namespace DataGrid

open Json

/-- **Column state.** -/
structure ColumnState where
  /-- Shown in the grid. -/
  displayed : Bool := false
  /-- Filtered by the value. -/
  filtered : Bool := false
  /-- What was submitted. -/
  value : Json := .null
  sort : SortStatus := .none
  deriving Repr

/-- **Filter state.** -/
structure FilterState where
  columns : Dictionary ColumnState
  deriving Repr

namespace ColumnState

/-- The JSON form of a column state. -/
def encode (s : ColumnState) : Json :=
  .object [("displayed", .bool s.displayed), ("filtered", .bool s.filtered),
    ("value", s.value), ("sort", .string s.sort.name)]

/-- Reading a column state; what is missing is off, null or unsorted. -/
def decode : Decoder ColumnState :=
  Decoder.record ["displayed", "filtered", "value", "sort"] fun m =>
    ColumnState.mk <$> m.withDefault "displayed" false Decoder.bool <*>
      m.withDefault "filtered" false Decoder.bool <*>
      m.withDefault "value" .null Decoder.any <*>
      m.withDefault "sort" .none SortStatus.decode

end ColumnState

namespace FilterState

/-- The selection for a column. -/
def column? (s : FilterState) (name : String) : Option ColumnState := s.columns.lookup name

/-- The columns that are not shown, in order. -/
def hiddenColumns (s : FilterState) : List String :=
  Dictionary.namesWhere (!·.displayed) s.columns

/-- The JSON form of a state. -/
def encode (s : FilterState) : Json :=
  .object [("columns", .object (s.columns.map fun (name, column) => (name, column.encode)))]

/-- The written form of a state. -/
def toText (s : FilterState) : String := s.encode.text

/-- Reading a state. -/
def decode : Decoder FilterState :=
  Decoder.record ["columns"] fun m =>
    FilterState.mk <$> m.required "columns" (Decoder.mapOf ColumnState.decode)

end FilterState

end DataGrid
