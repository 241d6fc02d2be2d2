import DataGrid.Entity.Basic
import DataGrid.Entity.Routes
import DataGrid.Table.Basic
import DataGrid.View.Reference

/-!
# List of purchase orders

## Main definitions

* `totalAmount`: the sum of amounts, if each sum on the way fits
* `PurchaseOrderRow`, `PurchaseOrderRow.new`: what the list shows of an order
* `PurchaseOrderRow.draft`, `PurchaseOrderRow.table`: the columns of the list
-/

namespace DataGrid

open Markup Numeric

/-- **Total.** Amounts added from the left to zero. There is no total if a sum on the way does
not fit. -/
def totalAmount (amounts : List Decimal) : Option Decimal :=
  amounts.foldlM Decimal.add Decimal.zero

/-- **Row of a purchase order.** -/
structure PurchaseOrderRow where
  id : Int64
  refId : String
  isCancelled : Bool
  /-- The total of the lines. -/
  amount : Option Decimal
  lineItems : List Reference
  deriving Repr, DecidableEq

namespace PurchaseOrderRow

/-- The row of an order. -/
def new (routes : Routes) (o : PurchaseOrder) : PurchaseOrderRow where
  id := o.id
  refId := o.refId
  isCancelled := o.isCancelled
  amount := totalAmount (o.lineItems.filterMap (·.amount))
  lineItems := o.lineItems.map fun l => ⟨l.id, l.refId, some (routes.lineItemView l.id)⟩

instance : RowView PurchaseOrderRow := .ofFields [
  ("id", (toValue ·.id)),
  ("ref_id", (toValue ·.refId)),
  ("is_cancelled", (toValue ·.isCancelled)),
  ("amount", (toValue ·.amount)),
  ("line_items", (toValue ·.lineItems))]

/-- The columns of the list. -/
def columns : List (Column PurchaseOrderRow) := [
  .ofField "refId" "ref_id" "object.purchase_order.ref_id.label",
  (Column.ofField "amount" "amount" "object.purchase_order.amount.label").withFormatter .number,
  linkedColumn "lineItems" "line_items" "object.purchase_order.line_items.label" .list,
  ((Column.ofField "isCancelled" "is_cancelled"
    "object.purchase_order.is_cancelled.label").withFormatter .boolean).withHeaderCss
    mediumClass]

/-- What the list is made of. -/
def draft (routes : Routes) : TableDraft PurchaseOrderRow where
  columns := columns
  rowAction := some fun row => routes.purchaseOrderView row.id
  emptyMessageKey := some "object.purchase_order.table.empty"

/-- **List of purchase orders.** -/
def table (routes : Routes) : Except TableError (Table PurchaseOrderRow) := (draft routes).build

end PurchaseOrderRow

end DataGrid
