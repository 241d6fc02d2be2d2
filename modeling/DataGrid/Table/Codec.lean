import DataGrid.Column.Codec
import DataGrid.Table.Basic
import DataGrid.Value.Codec

/-!
# Filled tables as JSON

## Main definitions

* `FilledTable.encode`: the JSON form of a filled table
-/

namespace DataGrid

open Json

/-- The JSON form of a header. -/
def HeaderCell.encode (h : HeaderCell) : Json :=
  .object [("name", .string h.name), ("label", .string h.label), ("css", .string h.css),
    ("sorter", .string h.sorter.name)]

/-- The JSON form of a cell. -/
def FilledCell.encode (c : FilledCell) : Json :=
  .object [("column", .string c.column), ("html", .string c.html), ("css", .string c.css),
    ("row_action", encodeText? c.rowAction)]

/-- The JSON form of a row. -/
def FilledRow.encode (r : FilledRow) : Json :=
  .object [("id", (r.id.map fun id => Json.int id.toInt).getD .null),
    ("url", encodeText? r.url), ("cells", .array (r.cells.map FilledCell.encode))]

/-- **JSON form of a filled table.** -/
def FilledTable.encode (t : FilledTable) : Json :=
  .object [("headers", .array (t.headers.map HeaderCell.encode)),
    ("rows", .array (t.rows.map FilledRow.encode)),
    ("empty_message", encodeText? t.emptyMessage)]

end DataGrid
