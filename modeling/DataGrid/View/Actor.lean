import DataGrid.Attribute.Basic
import DataGrid.View.Reference

/-!
# List of people

## Main definitions

* `ActorRow`, `ActorRow.new`: what the list shows of a person
* `ActorRow.draft`, `ActorRow.table`: the columns of the list
-/

namespace DataGrid

/-- **Row of a person.** -/
structure ActorRow where
  id : Int64
  employeeId : Option String
  name : String
  title : Option String
  isActive : Bool
  orgUnit : Option Reference
  manager : Option Reference
  deriving Repr, DecidableEq

namespace ActorRow

/-- The type of the objects in the list. -/
def domain : String := "Actor"

/-- The row of a person. -/
def new (routes : Routes) (a : Actor) : ActorRow where
  id := a.id
  employeeId := a.employeeId
  name := a.name
  title := a.title
  isActive := a.isActive
  orgUnit := a.orgUnit.map (·.reference routes)
  manager := a.manager.map (·.reference routes)

instance : RowView ActorRow := .ofFields [
  ("id", (toValue ·.id)),
  ("employee_id", (toValue ·.employeeId)),
  ("name", (toValue ·.name)),
  ("title", (toValue ·.title)),
  ("is_active", (toValue ·.isActive)),
  ("org_unit", (toValue ·.orgUnit)),
  ("manager", (toValue ·.manager))]

/-- The columns that do not depend on attributes. -/
def columns : List (Column ActorRow) := [
  .ofField "employeeId" "employee_id" "object.actor.employee_id.label",
  .ofField "name" "name" "object.actor.name.label",
  .ofField "title" "title" "object.actor.title.label",
  (Column.ofField "isActive" "is_active" "object.actor.is_active.label").withFormatter .boolean,
  linkedColumn "orgUnit" "org_unit" "object.actor.org_unit.label" .reference,
  linkedColumn "manager" "manager" "object.actor.manager.label" .reference]

/-- What the list is made of. -/
def draft (routes : Routes) (attributes : ColumnProvider ActorRow) : TableDraft ActorRow where
  columns := columns ++ attributes domain
  rowAction := some fun row => routes.actorView row.id
  emptyMessageKey := some "object.actor.table.empty"

/-- **List of people.** -/
def table (routes : Routes) (attributes : ColumnProvider ActorRow) :
    Except TableError (Table ActorRow) := (draft routes attributes).build

end ActorRow

end DataGrid
