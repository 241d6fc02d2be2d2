import DataGrid.Entity.Lookup
import DataGrid.Entity.Routes
import DataGrid.Table.Basic
import DataGrid.View.Reference

/-!
# List of stakeholders

A stakeholder of a portfolio can be managed and removed there.

## Main definitions

* `StakeholderRow`, `StakeholderRow.new`: what the list shows of a stakeholder
* `StakeholderRow.draft`, `StakeholderRow.table`: the columns of the list
-/

namespace DataGrid

open Markup

/-- **Row of a stakeholder.** -/
structure StakeholderRow where
  id : Int64
  portfolioId : Option Int64
  actor : Reference
  type : Reference
  /-- The portfolio, if it is known. -/
  portfolio : Option Reference
  deriving Repr, DecidableEq

namespace StakeholderRow

/-- The row of a stakeholder. -/
def new (lookup : Lookup) (routes : Routes) (s : Stakeholder) : StakeholderRow where
  id := s.id
  portfolioId := s.portfolioId
  actor := s.actor.reference routes
  type := s.type.reference
  portfolio := (s.portfolioId.bind lookup.portfolio?).map (·.reference routes)

instance : RowView StakeholderRow := .ofFields [
  ("id", (toValue ·.id)),
  ("actor", (toValue ·.actor)),
  ("stakeholder_type", (toValue ·.type)),
  ("portfolio", (toValue ·.portfolio))]

/-- The address that an action has for the stakeholder of a portfolio, or an empty one. -/
def actionUrl (action : Int64 → Int64 → String) (row : StakeholderRow) : String :=
  match row.portfolioId with
  | some portfolio => action portfolio row.id
  | none => ""

/-- A column for an action on the stakeholder of a portfolio. -/
def actionColumn (name : String) (formatter : Formatter StakeholderRow) : Column StakeholderRow :=
  ((((Column.ofField name "id" "").withFormatter formatter).withVisibleIf
    (·.portfolioId.isSome)).withHeaderCss narrowClass).withValueCss rightClass

/-- The columns of the list. -/
def columns (routes : Routes) : List (Column StakeholderRow) := [
  (Column.ofField "name" "actor" "object.stakeholder.actor.label").withFormatter .reference,
  (Column.ofField "role" "stakeholder_type" "object.stakeholder.role.label").withFormatter
    .reference,
  (Column.ofField "portfolio" "portfolio" "object.stakeholder.portfolio.label").withFormatter
    .reference,
  actionColumn "editActionLink" (.editLink (actionUrl routes.manageStakeholder)),
  actionColumn "removeActionLink" (.deleteLink (actionUrl routes.deleteStakeholder))]

/-- What the list is made of. -/
def draft (routes : Routes) : TableDraft StakeholderRow where
  columns := columns routes
  emptyMessageKey := some "object.stakeholder.table.empty"

/-- **List of stakeholders.** -/
def table (routes : Routes) : Except TableError (Table StakeholderRow) := (draft routes).build

end StakeholderRow

end DataGrid
