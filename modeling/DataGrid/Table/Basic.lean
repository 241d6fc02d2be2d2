import DataGrid.Column.Basic

/-!
# Tables

A table is built from a draft, which is checked once: the identity field and the fields of
all columns are declared, and no two columns have one name. A table turns rows into a filled
grid.

## Main definitions

* `TableError`: why a draft or a selection of columns is refused
* `TableDraft`, `TableDraft.build`: what a table is made of, and the check
* `Table`, `Table.withHidden`: a checked table, and the table with other columns hidden
* `FilledTable`, `Table.fill`: a filled grid, and filling it
-/

namespace DataGrid

/-! ## Errors -/

/-- **Table error.** -/
inductive TableError where
  | duplicateColumn (column : String)
  | unknownField (field column : String)
  | unknownIdField (field : String)
  | unknownColumn (column : String)
  deriving Repr, DecidableEq

/-- The wording of an error of the table with a name. -/
def TableError.message (table : String) : TableError → String
  | duplicateColumn column => "Duplicate column '" ++ column ++ "' in table '" ++ table ++ "'"
  | unknownField field column =>
    "Unknown field '" ++ field ++ "' for column '" ++ column ++ "' in table '" ++ table ++ "'"
  | unknownIdField field => "Unknown id field '" ++ field ++ "' in table '" ++ table ++ "'"
  | unknownColumn column => "Unknown column '" ++ column ++ "'"

/-! ## Tables -/

/-- **Table.** A table that has been checked. -/
structure Table (ρ : Type) where
  /-- The field that identifies rows. -/
  idField : String
  columns : List (Column ρ)
  /-- The message shown when there are no rows. -/
  emptyMessageKey : Option String
  /-- The address that a row links to. -/
  rowAction : Option (ρ → String)
  settings : FormatSettings

/-- **Draft.** What a table is made of. -/
structure TableDraft (ρ : Type) where
  idField : String := "id"
  columns : List (Column ρ) := []
  emptyMessageKey : Option String := none
  rowAction : Option (ρ → String) := none
  settings : FormatSettings := {}

namespace TableDraft

variable {ρ : Type}

/-- The draft with another identity field. -/
def withIdField (field : String) (d : TableDraft ρ) : TableDraft ρ := { d with idField := field }

/-- The draft with a column at the end. -/
def column (c : Column ρ) (d : TableDraft ρ) : TableDraft ρ :=
  { d with columns := d.columns ++ [c] }

/-- The draft with a column at the end, on a condition. -/
def columnIf (condition : Bool) (c : Column ρ) (d : TableDraft ρ) : TableDraft ρ :=
  if condition then d.column c else d

/-- The draft with columns at the end. -/
def columnsFrom (cs : List (Column ρ)) (d : TableDraft ρ) : TableDraft ρ :=
  { d with columns := d.columns ++ cs }

/-- The draft with a message for an empty table. -/
def withEmptyMessageKey (key : String) (d : TableDraft ρ) : TableDraft ρ :=
  { d with emptyMessageKey := some key }

/-- The draft with an address for rows. -/
def withRowAction (action : ρ → String) (d : TableDraft ρ) : TableDraft ρ :=
  { d with rowAction := some action }

/-- The draft with settings. -/
def withSettings (settings : FormatSettings) (d : TableDraft ρ) : TableDraft ρ :=
  { d with settings }

/-- The check of columns from the left, given the names before them. A repeated name is found
before an undeclared field. -/
def checkColumns (fields seen : List String) : List (Column ρ) → Except TableError Unit
  | [] => .ok ()
  | c :: rest =>
    if seen.contains c.name then .error (.duplicateColumn c.name)
    else
      match c.source.field? with
      | some field =>
        if fields.contains field then checkColumns fields (c.name :: seen) rest
        else .error (.unknownField field c.name)
      | none => checkColumns fields (c.name :: seen) rest

/-- The table of a draft that needs no check. -/
def toTable (d : TableDraft ρ) : Table ρ :=
  ⟨d.idField, d.columns, d.emptyMessageKey, d.rowAction, d.settings⟩

/-- **Building.** The table of a draft, if the draft passes the check. -/
def build [RowView ρ] (d : TableDraft ρ) : Except TableError (Table ρ) :=
  if (RowView.fields ρ).contains d.idField then
    (checkColumns (RowView.fields ρ) [] d.columns).map fun () => d.toTable
  else .error (.unknownIdField d.idField)

end TableDraft

namespace Table

variable {ρ : Type}

/-- The column with a name. -/
def column? (t : Table ρ) (name : String) : Option (Column ρ) :=
  t.columns.find? (·.name == name)

/-- The columns that are not hidden. -/
def visibleColumns (t : Table ρ) : List (Column ρ) := t.columns.filter (!·.hidden)

/-- The address that a row links to. -/
def rowUrl? (t : Table ρ) (row : ρ) : Option String := t.rowAction.map (· row)

/-- **Hiding.** The table with the named columns hidden and all others shown. The first name
that no column has is refused. -/
def withHidden (t : Table ρ) (names : List String) : Except TableError (Table ρ) :=
  match names.find? fun name => (t.column? name).isNone with
  | some name => .error (.unknownColumn name)
  | none =>
    .ok { t with columns := t.columns.map fun c => c.withHidden (names.contains c.name) }

/-- The table with settings. -/
def withSettings (t : Table ρ) (settings : FormatSettings) : Table ρ := { t with settings }

end Table

/-! ## Filled tables -/

/-- The header of a column. -/
structure HeaderCell where
  name : String
  label : String
  css : String
  sorter : Sorter
  deriving Repr, DecidableEq

/-- The cell of a row in a column. -/
structure FilledCell where
  column : String
  html : String
  css : String
  /-- The address that the cell follows. -/
  rowAction : Option String
  deriving Repr, DecidableEq

/-- A row with its cells. -/
structure FilledRow where
  id : Option Int64
  url : Option String
  cells : List FilledCell
  deriving Repr, DecidableEq

/-- The cell of the column with a name. -/
def FilledRow.cell? (row : FilledRow) (name : String) : Option FilledCell :=
  row.cells.find? (·.column == name)

/-- **Filled table.** -/
structure FilledTable where
  headers : List HeaderCell
  rows : List FilledRow
  emptyMessage : Option String
  deriving Repr, DecidableEq

namespace Table

variable {ρ : Type}

/-- The header of a column. A column without a label key has no label. -/
def header (messages : Resolver) (c : Column ρ) : HeaderCell where
  name := c.name
  label := if c.labelKey.isEmpty then "" else messages.message c.labelKey []
  css := c.headerCss
  sorter := c.sorter

/-- The cell of a row in a column. -/
def cell [RowView ρ] (t : Table ρ) (ctx : Context) (row : ρ) (c : Column ρ) : FilledCell where
  column := c.name
  html := c.render row ctx
  css := c.valueCss
  rowAction := if c.skipsRowAction then none else t.rowUrl? row

/-- A row with its cells. -/
def fillRow [RowView ρ] (t : Table ρ) (messages : Resolver) (row : ρ) : FilledRow where
  id := (RowView.value row t.idField).id?
  url := t.rowUrl? row
  cells := t.visibleColumns.map (t.cell ⟨t.settings, messages⟩ row)

/-- **Filling.** The grid of rows. -/
def fill [RowView ρ] (t : Table ρ) (rows : List ρ) (messages : Resolver) : FilledTable where
  headers := t.visibleColumns.map (header messages)
  rows := rows.map (t.fillRow messages)
  emptyMessage :=
    if rows.isEmpty then t.emptyMessageKey.map (messages.message · []) else none

end Table

end DataGrid
