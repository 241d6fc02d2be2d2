import DataGrid.Description.Basic
import DataGrid.Table.Basic

/-!
# Descriptions of tables

## Main definitions

* `Formatter.describe`, `Column.describe`, `Table.describe`: the descriptions
-/

namespace DataGrid

open Description

variable {ρ : Type}

/-- The description of a formatter. -/
def Formatter.describe (f : Formatter ρ) : String := record "Formatter" [("kind", text f.kind)]

/-- The description of where values come from. -/
def Source.describe : Source ρ → String
  | field name => "Field(" ++ text name ++ ")"
  | computed _ => "Computed(..)"

/-- The description of a sorter. -/
def Sorter.describe : Sorter → String
  | none => "None"
  | sorted => "Sorted"
  | unsorted => "Unsorted"

/-- **Description of a column.** Classes are shown as they were set. -/
def Column.describe (c : Column ρ) : String :=
  openRecord "ColumnDescriptor" [("name", text c.name), ("accessor", c.source.describe),
    ("label_key", text c.labelKey), ("sorter", c.sorter.describe),
    ("formatter", optional (c.formatter.map Formatter.describe)),
    ("header_css", text c.headerCss), ("value_css", text c.ownCss),
    ("skip_row_action", bool c.skipsRowAction), ("hidden", bool c.hidden)]

/-- **Description of a table.** -/
def Table.describe (t : Table ρ) : String :=
  openRecord "TableDefinition" [("id_field", text t.idField),
    ("columns", list (t.columns.map Column.describe)),
    ("empty_message_key", optional (t.emptyMessageKey.map text)),
    ("row_action", bool t.rowAction.isSome)]

end DataGrid
