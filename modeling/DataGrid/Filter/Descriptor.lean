import DataGrid.Filter.Widget

/-!
# Filter descriptors

A descriptor says which column can be filtered, by which path its values are reached, with
which widget, and how the column is shown and sorted at first.

## Main definitions

* `SortStatus`: whether and how a column is sorted
* `FilterDescriptor`, `FilterDescriptor.new`: descriptors, and a new one
* `isFieldPath`: the grammar of paths
* `FilterDescriptor.encode`, `FilterDescriptor.decode`: the JSON form
-/

namespace DataGrid

open Json

/-! ## Sort status -/

/-- **Sort status.** -/
inductive SortStatus where
  /-- Cannot be sorted. -/
  | none
  /-- Can be sorted. -/
  | unsorted
  | ascending
  | descending
  deriving Repr, DecidableEq

namespace SortStatus

/-- Whether there is an order. -/
def isSorted : SortStatus → Bool
  | ascending | descending => true
  | none | unsorted => false

/-- The name of a status. -/
def name : SortStatus → String
  | none => "NONE"
  | unsorted => "UNSORTED"
  | ascending => "ASC"
  | descending => "DESC"

/-- The status with a name. -/
def ofName? (name : String) : Option SortStatus :=
  [SortStatus.none, .unsorted, .ascending, .descending].find? (·.name == name)

/-- Reading a status. -/
def decode : Decoder SortStatus := Decoder.choice ofName?

end SortStatus

/-! ## Descriptors -/

/-- **Filter descriptor.** -/
structure FilterDescriptor where
  /-- The key of the column, unique in its filter. -/
  name : String
  /-- The path of the values, with points between its segments. -/
  fieldPath : String
  /-- The message key of the label. -/
  labelKey : String
  widget : Widget
  /-- Shown at first. -/
  displayed : Bool
  /-- Always shown. -/
  mandatory : Bool
  sort : SortStatus
  deriving Repr, DecidableEq

namespace FilterDescriptor

/-- A new descriptor. It is not shown at first; it can be sorted if it can be filtered. -/
def new (name fieldPath labelKey : String) (widget : Widget) : FilterDescriptor :=
  ⟨name, fieldPath, labelKey, widget, false, false, if widget.isNone then .none else .unsorted⟩

/-- The descriptor, shown at first or not. -/
def withDisplayed (displayed : Bool) (d : FilterDescriptor) : FilterDescriptor :=
  { d with displayed }

/-- The descriptor, always shown. -/
def asMandatory (d : FilterDescriptor) : FilterDescriptor :=
  { d with mandatory := true, displayed := true }

/-- The descriptor with a sort status. What cannot be filtered keeps its own. -/
def withSort (sort : SortStatus) (d : FilterDescriptor) : FilterDescriptor :=
  if d.widget.isNone then d else { d with sort }

end FilterDescriptor

/-- Whether a character may stand in a segment of a path. -/
def isPathChar (c : Char) : Bool := c.isAlphanum || c == '_'

/-- **Path grammar.** One or more segments with points between them; a segment is made of
letters, digits and underscores and is not empty. -/
def isFieldPath (path : String) : Bool :=
  (path.toList.splitOnP (· == '.')).all fun segment =>
    !segment.isEmpty && segment.all isPathChar

/-! ## JSON form -/

namespace FilterDescriptor

/-- **JSON form of a descriptor.** The members of the widget stand among its own. -/
def encode (d : FilterDescriptor) : Json :=
  .object <|
    [("name", .string d.name), ("field_path", .string d.fieldPath),
      ("label_key", .string d.labelKey)] ++ d.widget.members ++
    [("displayed", .bool d.displayed), ("mandatory", .bool d.mandatory),
      ("sort", .string d.sort.name)]

/-- **Reading a descriptor.** The members that are not its own make up the widget. -/
def decode : Decoder FilterDescriptor :=
  Decoder.openRecord
    ["name", "field_path", "label_key", "displayed", "mandatory", "sort"] fun m =>
    let widget := Widget.decode ⟨m.site.depth + 1, true⟩ (.object m.others none)
    FilterDescriptor.mk <$> m.required "name" Decoder.text <*>
      m.required "field_path" Decoder.text <*> m.required "label_key" Decoder.text <*>
      .ofExcept m.limit widget <*> m.required "displayed" Decoder.bool <*>
      m.required "mandatory" Decoder.bool <*> m.required "sort" SortStatus.decode

end FilterDescriptor

end DataGrid
