import DataGrid.Entity.Basic
import DataGrid.Entity.Routes
import DataGrid.Table.Basic

/-!
# List of kinds of portfolios

The list is the same for everyone: its links are the usual ones.

## Main definitions

* `PortfolioTypeRow`, `PortfolioTypeRow.new`: what the list shows of a kind of portfolio
* `PortfolioTypeRow.draft`, `PortfolioTypeRow.table`: the columns of the list

## Main results

* `PortfolioTypeRow.build_draft`: the list passes the check of tables
-/

namespace DataGrid

open Markup

/-- **Row of a kind of portfolio.** -/
structure PortfolioTypeRow where
  id : Int64
  name : String
  description : Option String
  selectable : Bool
  deriving Repr, DecidableEq

namespace PortfolioTypeRow

/-- The row of a kind of portfolio. -/
def new (t : PortfolioType) : PortfolioTypeRow := ⟨t.id, t.name, t.description, t.selectable⟩

instance : RowView PortfolioTypeRow := .ofFields [
  ("id", (toValue ·.id)),
  ("name", (toValue ·.name)),
  ("description", (toValue ·.description)),
  ("selectable", (toValue ·.selectable))]

/-- The columns of the list. -/
def columns : List (Column PortfolioTypeRow) := [
  .ofField "name" "name" "object.portfolio_type.name.label",
  .ofField "description" "description" "object.portfolio_type.description.label",
  (Column.ofField "selectable" "selectable"
    "object.portfolio_type.selectable.label").withFormatter .boolean,
  (((Column.ofField "editActionLink" "id" "").withFormatter
    (.editLink fun row => Routes.standard.managePortfolioType row.id)).withHeaderCss
    narrowClass).withValueCss (rightClass ++ " " ++ skipClass),
  (((Column.ofField "deleteActionLink" "id" "").withFormatter
    (.deleteLink fun row => Routes.standard.deletePortfolioType row.id)).withHeaderCss
    narrowClass).withValueCss rightClass]

/-- What the list is made of. -/
def draft : TableDraft PortfolioTypeRow where
  columns := columns
  emptyMessageKey := some "object.portfolio_type.table.empty"

/-- **List of kinds of portfolios.** -/
def table : Table PortfolioTypeRow := draft.toTable

theorem build_draft : draft.build = .ok table := rfl

end PortfolioTypeRow

end DataGrid
