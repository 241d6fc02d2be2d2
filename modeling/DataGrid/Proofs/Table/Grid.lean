import DataGrid.Proofs.Table.Basic
import DataGrid.View.Actor
import Mathlib.Data.List.Forall2

/-!
# Filled grids

A filled table has one header for each column that is shown and one row for each row that it was
filled with, in order. A cell stands under the header of its column and is found by that name. What
a row shows does not depend on other rows, and settings change nothing but what cells show.

## Main definitions

* `Table.FillsRow`: a filled row shows a row
* `Table.IsGrid`: a filled table shows a list of rows
* `FilledTable.withoutHtml`: a filled table without what its cells show

## Main results

* `Table.cell?_fillRow`: cells are found by the names of their columns
* `Table.fill_isGrid`: tables of a draft are filled to grids
-/

namespace DataGrid

variable {ρ : Type}

/-- The filled row without what its cells show. -/
def FilledRow.withoutHtml (row : FilledRow) : FilledRow :=
  { row with cells := row.cells.map fun cell => { cell with html := "" } }

/-- The filled table without what its cells show. -/
def FilledTable.withoutHtml (filled : FilledTable) : FilledTable :=
  { filled with rows := filled.rows.map (·.withoutHtml) }

namespace Table

theorem nodup_map_name_visibleColumns {t : Table ρ} (h : (t.columns.map (·.name)).Nodup) :
    (t.visibleColumns.map (·.name)).Nodup :=
  h.sublist (List.filter_sublist.map _)

variable [RowView ρ] {t : Table ρ}

/-- **Row of a grid.** It has the id and the address of a row, and a cell for each column that is
shown, which is found by the name of the column. -/
structure FillsRow (t : Table ρ) (messages : Resolver) (row : ρ) (filled : FilledRow) : Prop where
  id : filled.id = (RowView.value row t.idField).id?
  url : filled.url = t.rowUrl? row
  names : filled.cells.map (·.column) = t.visibleColumns.map (·.name)
  found : ∀ c ∈ t.visibleColumns,
    filled.cell? c.name = some (t.cell ⟨t.settings, messages⟩ row c)

/-- **Grid.** It has a header for each column that is shown, with a name of its own, a row for each
row, whose cells stand under the headers, and a message just where it asks for one and has no
rows. -/
structure IsGrid (t : Table ρ) (messages : Resolver) (rows : List ρ) (filled : FilledTable) :
    Prop where
  headers : filled.headers.map (·.name) = t.visibleColumns.map (·.name)
  distinct : (filled.headers.map (·.name)).Nodup
  rowByRow : List.Forall₂ (t.FillsRow messages) rows filled.rows
  aligned : ∀ row ∈ filled.rows, row.cells.map (·.column) = filled.headers.map (·.name)
  message : filled.emptyMessage.isSome ↔ t.emptyMessageKey.isSome ∧ rows = []

/-! ## Filling -/

theorem map_name_headers (t : Table ρ) (messages : Resolver) (rows : List ρ) :
    (t.fill rows messages).headers.map (·.name) = t.visibleColumns.map (·.name) := by
  rw [fill, List.map_map]
  rfl

theorem map_column_cells (t : Table ρ) (messages : Resolver) (row : ρ) :
    (t.fillRow messages row).cells.map (·.column) = t.visibleColumns.map (·.name) := by
  rw [fillRow, List.map_map]
  rfl

/-- **Cells by name.** The cell of a column is found by the column's name, as no other column has
that name. -/
theorem cell?_fillRow (h : (t.columns.map (·.name)).Nodup) (messages : Resolver) (row : ρ)
    {c : Column ρ} (hc : c ∈ t.visibleColumns) :
    (t.fillRow messages row).cell? c.name = some (t.cell ⟨t.settings, messages⟩ row c) := by
  have hnodup : ((t.fillRow messages row).cells.map (·.column)).Nodup := by
    rw [map_column_cells]
    exact nodup_map_name_visibleColumns h
  exact find?_name_of_mem hnodup (List.mem_map_of_mem hc)

theorem fillsRow_fillRow (h : (t.columns.map (·.name)).Nodup) (messages : Resolver) (row : ρ) :
    t.FillsRow messages row (t.fillRow messages row) :=
  ⟨rfl, rfl, t.map_column_cells messages row, fun _ => cell?_fillRow h messages row⟩

theorem isSome_emptyMessage_iff (t : Table ρ) (messages : Resolver) (rows : List ρ) :
    (t.fill rows messages).emptyMessage.isSome ↔ t.emptyMessageKey.isSome ∧ rows = [] := by
  rw [fill]
  cases rows with
  | nil => simp
  | cons row rows => simp

theorem isGrid_fill (h : (t.columns.map (·.name)).Nodup) (messages : Resolver) (rows : List ρ) :
    t.IsGrid messages rows (t.fill rows messages) where
  headers := t.map_name_headers messages rows
  distinct := by
    rw [map_name_headers]
    exact nodup_map_name_visibleColumns h
  rowByRow := List.forall₂_map_right_iff.mpr (List.forall₂_same.mpr fun row _ =>
    fillsRow_fillRow h messages row)
  aligned := by
    intro filled hfilled
    obtain ⟨row, -, rfl⟩ := List.mem_map.mp hfilled
    rw [map_column_cells, map_name_headers]
  message := t.isSome_emptyMessage_iff messages rows

theorem rows_fill_append (t : Table ρ) (messages : Resolver) (rows others : List ρ) :
    (t.fill (rows ++ others) messages).rows =
      (t.fill rows messages).rows ++ (t.fill others messages).rows :=
  List.map_append

/-- Settings change nothing but what cells show. -/
theorem withoutHtml_fill_withSettings (t : Table ρ) (messages : Resolver)
    (settings : FormatSettings) (rows : List ρ) :
    ((t.withSettings settings).fill rows messages).withoutHtml =
      (t.fill rows messages).withoutHtml := by
  have hrow : ∀ row, ((t.withSettings settings).fillRow messages row).withoutHtml =
      (t.fillRow messages row).withoutHtml := by
    intro row
    rw [FilledRow.withoutHtml, FilledRow.withoutHtml, fillRow, fillRow, List.map_map,
      List.map_map]
    rfl
  have hrows : ((t.withSettings settings).fill rows messages).rows.map (·.withoutHtml) =
      (t.fill rows messages).rows.map (·.withoutHtml) := by
    rw [fill, fill, List.map_map, List.map_map]
    exact List.map_congr_left fun row _ => hrow row
  rw [FilledTable.withoutHtml, FilledTable.withoutHtml, hrows]
  rfl

/-- **Grids.** However columns of a draft's table were hidden and settings changed, it has the
columns of the draft in their order, it fills a grid, it fills rows one by one, and other settings
change nothing but what cells show. -/
theorem fill_isGrid {draft : TableDraft ρ} (h : draft.Yields t) (messages : Resolver) :
    t.core = draft.toTable.core ∧
      (∀ rows, t.IsGrid messages rows (t.fill rows messages)) ∧
        (∀ rows others, (t.fill (rows ++ others) messages).rows =
          (t.fill rows messages).rows ++ (t.fill others messages).rows) ∧
          ∀ settings rows, ((t.withSettings settings).fill rows messages).withoutHtml =
            (t.fill rows messages).withoutHtml :=
  ⟨h.core_eq, isGrid_fill h.nodup_map_name messages, t.rows_fill_append messages,
    t.withoutHtml_fill_withSettings messages⟩

end Table

namespace ActorRow

/-- The list of people. -/
def people : TableDraft ActorRow := draft .standard fun _ => []

/-- The list of people without their managers, with a word where there is nothing to show. -/
def withoutManagers : Table ActorRow :=
  (people.toTable.hide ["manager"]).withSettings { emptyPlaceholder := "unknown" }

/-- A person without a title and a unit. -/
def newcomer : ActorRow := ⟨.ofNat 7, some "E-7", "Ada", none, true, none, none⟩

/-- The list without managers has a header for each other column. A newcomer's unit is found under
the unit's header, and an empty list has a message. -/
theorem fill_withoutManagers :
    people.Yields withoutManagers ∧
      (withoutManagers.fill [newcomer] .echo).headers.map (·.name) =
        ["employeeId", "name", "title", "isActive", "orgUnit"] ∧
        (∃ filled, (withoutManagers.fill [newcomer] .echo).rows = [filled] ∧
          withoutManagers.FillsRow .echo newcomer filled ∧
            (filled.cell? "orgUnit").map (fun cell => (cell.html, cell.rowAction)) =
              some ("unknown", none)) ∧
          (withoutManagers.fill [] .echo).emptyMessage.isSome := by
  have hbuilt : people.build = .ok people.toTable :=
    TableDraft.build_eq_ok_iff.mpr ⟨by decide +kernel, rfl⟩
  have hhidden : people.toTable.withHidden ["manager"] = .ok (people.toTable.hide ["manager"]) :=
    Table.withHidden_eq_ok_iff.mpr ⟨by decide, rfl⟩
  have hyields : people.Yields withoutManagers :=
    .withSettings (.withHidden (.build hbuilt) hhidden) _
  obtain ⟨-, hgrid, -, -⟩ := Table.fill_isGrid hyields .echo
  have hheaders := (hgrid [newcomer]).headers
  have hrows := (hgrid [newcomer]).rowByRow
  refine ⟨hyields, ?_, ⟨_, rfl, (List.forall₂_cons.mp hrows).1, by decide +kernel⟩, ?_⟩
  · rw [hheaders]
    decide
  · exact (hgrid []).message.mpr ⟨rfl, rfl⟩

end ActorRow

end DataGrid
