import DataGrid.Entity.Basic
import DataGrid.Entity.Routes
import DataGrid.Table.Basic
import DataGrid.View.Reference

/-!
# List of line items

The list is the same for everyone: the links of its rows are the usual ones. A line item that
is shown for a work order can be selected for it.

## Main definitions

* `LineItemRow`, `LineItemRow.new?`: what the list shows of a line item
* `LineItemRow.selectUrl?`: the address that selects a line item for a work order
* `LineItemRow.draft`, `LineItemRow.table`: the columns of the list

## Main results

* `LineItemRow.build_draft`: the list passes the check of tables
-/

namespace DataGrid

open Markup Numeric

/-- **Row of a line item.** -/
structure LineItemRow where
  id : Int64
  /-- The entry whose work order the line item is shown for. -/
  portfolioEntryId : Option Int64
  workOrderId : Option Int64
  isAssociated : Bool
  shared : Bool
  refId : String
  orderRefId : String
  currency : Option String
  amount : Option Decimal
  remainingAmount : Option Decimal
  amountReceived : Option Decimal
  /-- What is not received yet. -/
  amountOpen : Option Decimal
  isOpex : Bool
  isCancelled : Bool
  costCenter : Option Reference
  deriving Repr, DecidableEq

namespace LineItemRow

/-- What is not received yet of an amount, if both amounts are known. The outer option is
empty if the difference does not fit. -/
def openAmount? (amount received : Option Decimal) : Option (Option Decimal) :=
  match amount, received with
  | some amount, some received => (amount.sub received).map some
  | _, _ => some none

/-- The row of a line item for a work order. There is none if what is not received yet does
not fit into a decimal. -/
def forWorkOrder? (routes : Routes) (l : LineItem) (portfolioEntryId workOrderId : Option Int64) :
    Option LineItemRow := do
  let amountOpen ← openAmount? l.amount l.amountReceived
  return {
    id := l.id
    portfolioEntryId
    workOrderId
    isAssociated := l.associated
    shared := l.shared
    refId := l.refId
    orderRefId := l.orderRefId
    currency := l.currency.map (·.code)
    amount := l.amount
    remainingAmount := l.remainingAmount
    amountReceived := l.amountReceived
    amountOpen
    isOpex := l.isOpex
    isCancelled := l.isCancelled
    costCenter := l.costCenter.map fun c => ⟨c.id, c.name, some (routes.costCenterView c.id)⟩ }

/-- The row of a line item by itself. -/
def new? (routes : Routes) (l : LineItem) : Option LineItemRow := forWorkOrder? routes l none none

/-- The address that selects the line item for the work order it is shown for. -/
def selectUrl? (row : LineItemRow) : Option String :=
  match row.portfolioEntryId, row.workOrderId with
  | some entry, some order => some (Routes.standard.selectLineItem entry order row.id)
  | _, _ => none

instance : RowView LineItemRow := .ofFields [
  ("id", (toValue ·.id)),
  ("is_associated", (toValue ·.isAssociated)),
  ("shared", (toValue ·.shared)),
  ("ref_id", (toValue ·.refId)),
  ("purchase_order_ref_id", (toValue ·.orderRefId)),
  ("currency", (toValue ·.currency)),
  ("amount", (toValue ·.amount)),
  ("remaining_amount", (toValue ·.remainingAmount)),
  ("amount_received", (toValue ·.amountReceived)),
  ("amount_open", (toValue ·.amountOpen)),
  ("is_opex", (toValue ·.isOpex)),
  ("is_cancelled", (toValue ·.isCancelled)),
  ("cost_center", (toValue ·.costCenter))]

/-- A lock icon that links to an address. -/
def selectTemplate : String := "<a href=\"\x7burl\x7d\"><span class=\"fa fa-lock\"></span></a>"

/-- The message that names the kind of an expenditure. -/
def renderExpenditure (_ : LineItemRow) (v : Value) (ctx : Context) : String :=
  match v.bool? with
  | some true => ctx.messages.message "object.expenditure_type.opex.label" []
  | some false => ctx.messages.message "object.expenditure_type.capex.label" []
  | none => ctx.empty

/-- The columns of the list. -/
def columns : List (Column LineItemRow) := [
  .ofField "refId" "ref_id" "object.purchase_order_line_item.ref_id.label",
  .ofField "purchaseOrderRefId" "purchase_order_ref_id"
    "object.purchase_order_line_item.purchase_order.label",
  (Column.ofField "isAssociated" "is_associated"
    "object.purchase_order_line_item.is_associated.label").withFormatter .boolean,
  (Column.ofField "shared" "shared"
    "object.purchase_order_line_item.shared.label").withFormatter .boolean,
  (Column.ofField "isOpex" "is_opex"
    "object.purchase_order_line_item.expenditure_type.label").withFormatter
    (.custom renderExpenditure),
  .ofField "currency" "currency" "object.purchase_order_line_item.currency.label",
  (Column.ofField "amount" "amount"
    "object.purchase_order_line_item.amount.label").withFormatter .number,
  (Column.ofField "remainingAmount" "remaining_amount"
    "object.purchase_order_line_item.remaining_amount.label").withFormatter .number,
  (Column.ofField "amountReceived" "amount_received"
    "object.purchase_order_line_item.amount_received.label").withFormatter .number,
  (Column.ofField "amountOpen" "amount_open"
    "object.purchase_order_line_item.amount_open.label").withFormatter .number,
  linkedColumn "costCenter" "cost_center" "object.purchase_order_line_item.cost_center.label"
    .reference,
  (Column.ofField "isCancelled" "is_cancelled"
    "object.purchase_order_line_item.is_cancelled.label").withFormatter .boolean,
  ((((Column.ofField "selectActionLink" "id" "").withFormatter
    (.stringFormat selectTemplate fun row => row.selectUrl?.getD "")).withVisibleIf
    (·.selectUrl?.isSome)).withHeaderCss narrowClass).withValueCss
    (rightClass ++ " " ++ skipClass)]

/-- What the list is made of. -/
def draft : TableDraft LineItemRow where
  columns := columns
  rowAction := some fun row => Routes.standard.lineItemView row.id
  emptyMessageKey := some "object.purchase_order_line_item.table.empty"

/-- **List of line items.** -/
def table : Table LineItemRow := draft.toTable

theorem build_draft : draft.build = .ok table := rfl

end LineItemRow

end DataGrid
