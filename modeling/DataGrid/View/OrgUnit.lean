import DataGrid.Attribute.Basic
import DataGrid.View.Reference

/-!
# List of units

## Main definitions

* `OrgUnitRow`, `OrgUnitRow.new`: what the list shows of a unit
* `OrgUnitRow.draft`, `OrgUnitRow.table`: the columns of the list
-/

namespace DataGrid

/-- **Row of a unit.** -/
structure OrgUnitRow where
  id : Int64
  refId : Option String
  name : String
  type : Option Reference
  isActive : Bool
  manager : Option Reference
  deriving Repr, DecidableEq

namespace OrgUnitRow

/-- The type of the objects in the list. -/
def domain : String := "OrgUnit"

/-- The row of a unit. -/
def new (routes : Routes) (o : OrgUnit) : OrgUnitRow where
  id := o.id
  refId := o.refId
  name := o.name
  type := o.type.map (·.reference)
  isActive := o.isActive
  manager := o.manager.map (·.reference routes)

instance : RowView OrgUnitRow := .ofFields [
  ("id", (toValue ·.id)),
  ("ref_id", (toValue ·.refId)),
  ("name", (toValue ·.name)),
  ("org_unit_type", (toValue ·.type)),
  ("is_active", (toValue ·.isActive)),
  ("manager", (toValue ·.manager))]

/-- The columns that do not depend on attributes. -/
def columns : List (Column OrgUnitRow) := [
  .ofField "refId" "ref_id" "object.org_unit.ref_id.label",
  .ofField "name" "name" "object.org_unit.name.label",
  (Column.ofField "type" "org_unit_type" "object.org_unit.type.label").withFormatter .reference,
  (Column.ofField "isActive" "is_active" "object.org_unit.is_active.label").withFormatter
    .boolean,
  linkedColumn "manager" "manager" "object.org_unit.manager.label" .reference]

/-- What the list is made of. -/
def draft (routes : Routes) (attributes : ColumnProvider OrgUnitRow) : TableDraft OrgUnitRow where
  columns := columns ++ attributes domain
  rowAction := some fun row => routes.orgUnitView row.id
  emptyMessageKey := some "object.org_unit.table.empty"

/-- **List of units.** -/
def table (routes : Routes) (attributes : ColumnProvider OrgUnitRow) :
    Except TableError (Table OrgUnitRow) := (draft routes attributes).build

end OrgUnitRow

end DataGrid
