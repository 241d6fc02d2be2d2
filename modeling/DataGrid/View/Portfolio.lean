import DataGrid.Attribute.Basic
import DataGrid.View.Reference

/-!
# List of portfolios

## Main definitions

* `PortfolioRow`, `PortfolioRow.new`, `PortfolioRow.withStakeholders`: what the list shows of
  a portfolio
* `PortfolioRow.draft`, `PortfolioRow.table`: the columns of the list
-/

namespace DataGrid

/-- **Row of a portfolio.** -/
structure PortfolioRow where
  id : Int64
  refId : Option String
  name : String
  type : Option Reference
  isActive : Bool
  manager : Option Reference
  /-- The roles that a person has in the portfolio. -/
  stakeholderTypes : List String
  deriving Repr, DecidableEq

namespace PortfolioRow

/-- The type of the objects in the list. -/
def domain : String := "Portfolio"

/-- The row of a portfolio. -/
def new (routes : Routes) (p : Portfolio) : PortfolioRow where
  id := p.id
  refId := p.refId
  name := p.name
  type := p.type.map fun t => ⟨t.id, t.name, none⟩
  isActive := p.isActive
  manager := p.manager.map (·.reference routes)
  stakeholderTypes := []

/-- The row of a portfolio with the roles of stakeholders. -/
def withStakeholders (routes : Routes) (p : Portfolio) (stakeholders : List Stakeholder) :
    PortfolioRow :=
  { new routes p with stakeholderTypes := stakeholders.map (·.type.name) }

instance : RowView PortfolioRow := .ofFields [
  ("id", (toValue ·.id)),
  ("ref_id", (toValue ·.refId)),
  ("name", (toValue ·.name)),
  ("portfolio_type", (toValue ·.type)),
  ("is_active", (toValue ·.isActive)),
  ("manager", (toValue ·.manager)),
  ("stakeholder_types", (toValue ·.stakeholderTypes))]

/-- The columns that do not depend on attributes. -/
def columns : List (Column PortfolioRow) := [
  .ofField "refId" "ref_id" "object.portfolio.ref_id.label",
  .ofField "name" "name" "object.portfolio.name.label",
  (Column.ofField "type" "portfolio_type" "object.portfolio.type.label").withFormatter
    .reference,
  (Column.ofField "isActive" "is_active" "object.portfolio.is_active.label").withFormatter
    .boolean,
  linkedColumn "manager" "manager" "object.portfolio.manager.label" .reference,
  (Column.ofField "stakeholderTypes" "stakeholder_types"
    "object.portfolio.stakeholder_types.label").withFormatter .list]

/-- What the list is made of. -/
def draft (routes : Routes) (attributes : ColumnProvider PortfolioRow) :
    TableDraft PortfolioRow where
  columns := columns ++ attributes domain
  rowAction := some fun row => routes.portfolioOverview row.id
  emptyMessageKey := some "object.portfolio.table.empty"

/-- **List of portfolios.** -/
def table (routes : Routes) (attributes : ColumnProvider PortfolioRow) :
    Except TableError (Table PortfolioRow) := (draft routes attributes).build

end PortfolioRow

end DataGrid
