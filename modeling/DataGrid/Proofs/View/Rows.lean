import DataGrid.Proofs.Numeric.Difference
import DataGrid.Proofs.View.LineOrder
import DataGrid.View.Actor
import DataGrid.View.LineItem
import DataGrid.View.OrgUnit
import DataGrid.View.Portfolio
import DataGrid.View.PortfolioEntry
import DataGrid.View.PortfolioType
import DataGrid.View.Stakeholder

/-!
# Rows of lists

Lists make rows of objects. Every object has its row, whatever is missing from it, but for line
items: what is not received yet of an amount is a difference, and there is no row if it does not
fit into a decimal. A total of an order that does not fit is left out of the order's row instead.

## Main definitions

* `Listed`: the objects that the lists make rows of
* `Listed.row?`: what the row of an object answers
* `LineItem.Overdraws`: the open amount of a line item does not fit into a decimal

## Main results

* `LineItemRow.forWorkOrder?_eq_none_iff`: which line items have no row
* `Listed.row?_eq_none_iff`: which objects have no row
* `Listed.row?_overdrawn`: a line item without a row
-/

namespace DataGrid

open Numeric Numeric.Decimal

/-! ## Line items -/

/-- **Overdrawn line items.** The difference of amount and received amount is rounded to the limit
of decimals or beyond, even without places. -/
def LineItem.Overdraws (l : LineItem) : Prop :=
  ∃ amount received, l.amount = some amount ∧ l.amountReceived = some received ∧
    (twoTo 96 - 1 / 2 : ℚ) ≤ |amount.value - received.value|

namespace LineItemRow

theorem openAmount?_eq_none_iff {amount received : Option Decimal} :
    openAmount? amount received = none ↔
      ∃ a r, amount = some a ∧ received = some r ∧
        (twoTo 96 - 1 / 2 : ℚ) ≤ |a.value - r.value| := by
  -- without both amounts nothing is subtracted
  cases amount with
  | none => simp [openAmount?]
  | some a =>
    cases received with
    | none => simp [openAmount?]
    | some r =>
      rw [openAmount?, Option.map_eq_none_iff, sub_eq_none_iff]
      constructor
      · intro h
        exact ⟨a, r, rfl, rfl, h⟩
      · rintro ⟨_, _, ha, hr, h⟩
        cases ha
        cases hr
        exact h

/-- **Line items without a row.** Nothing but the open amount of a line item keeps it from having a
row, for a work order or by itself. -/
theorem forWorkOrder?_eq_none_iff (routes : Routes) (l : LineItem) (entry order : Option Int64) :
    forWorkOrder? routes l entry order = none ↔ l.Overdraws := by
  rw [LineItem.Overdraws, ← openAmount?_eq_none_iff, forWorkOrder?]
  cases openAmount? l.amount l.amountReceived <;> simp

end LineItemRow

/-! ## Objects of all lists -/

/-- **Listed objects.** Portfolios and entries may come with the stakeholders whose roles are shown,
and line items with the entry and the work order that they are shown for. -/
inductive Listed where
  | actor (a : Actor)
  | orgUnit (o : OrgUnit)
  | portfolio (p : Portfolio) (stakeholders : Option (List Stakeholder))
  | portfolioEntry (e : PortfolioEntry) (stakeholders : Option (List Stakeholder))
  | portfolioType (t : PortfolioType)
  | purchaseOrder (o : PurchaseOrder)
  | lineItem (l : LineItem) (entry order : Option Int64)
  | stakeholder (s : Stakeholder)

namespace Listed

/-- **Rows.** What the row of an object answers for each field, if the object has a row. -/
def row? (lookup : Lookup) (routes : Routes) : Listed → Option (String → Value)
  | actor a => some (RowView.value (ActorRow.new routes a))
  | orgUnit o => some (RowView.value (OrgUnitRow.new routes o))
  | portfolio p none => some (RowView.value (PortfolioRow.new routes p))
  | portfolio p (some roles) => some (RowView.value (PortfolioRow.withStakeholders routes p roles))
  | portfolioEntry e none => some (RowView.value (PortfolioEntryRow.new routes e))
  | portfolioEntry e (some roles) =>
    some (RowView.value (PortfolioEntryRow.withStakeholders routes e roles))
  | portfolioType t => some (RowView.value (PortfolioTypeRow.new t))
  | purchaseOrder o => some (RowView.value (PurchaseOrderRow.new routes o))
  | lineItem l entry order =>
    (LineItemRow.forWorkOrder? routes l entry order).map RowView.value
  | stakeholder s => some (RowView.value (StakeholderRow.new lookup routes s))

/-- **Objects without a row.** Of all objects only line items can be without a row, and they are
just where their open amount does not fit into a decimal. -/
theorem row?_eq_none_iff (lookup : Lookup) (routes : Routes) (x : Listed) :
    x.row? lookup routes = none ↔
      ∃ l entry order, x = .lineItem l entry order ∧ l.Overdraws := by
  cases x with
  | lineItem l entry order =>
    rw [row?, Option.map_eq_none_iff, LineItemRow.forWorkOrder?_eq_none_iff]
    constructor
    · intro h
      exact ⟨l, entry, order, rfl, h⟩
    · rintro ⟨_, _, _, hline, h⟩
      cases hline
      exact h
  | portfolio p stakeholders => cases stakeholders <;> simp [row?]
  | portfolioEntry e stakeholders => cases stakeholders <;> simp [row?]
  | actor | orgUnit | portfolioType | purchaseOrder | stakeholder => simp [row?]

/-- A line of the largest amount, of which less than nothing was received. -/
def overdrawn : LineItem := { lineOf largest with amountReceived := some (one true) }

/-- **A line item without a row.** So not every object has a row. -/
theorem row?_overdrawn :
    LineItemRow.new? .standard overdrawn = none ∧
      ¬ ∀ lookup routes (x : Listed), ∃ row, x.row? lookup routes = some row := by
  have hnone : LineItemRow.new? .standard overdrawn = none := by decide +kernel
  refine ⟨hnone, fun hrows => ?_⟩
  obtain ⟨row, hrow⟩ := hrows (EntityStore.lookup {}) .standard (.lineItem overdrawn none none)
  -- the row of the line item by itself is its row for no work order
  rw [LineItemRow.new?] at hnone
  rw [row?, hnone] at hrow
  cases hrow

end Listed

end DataGrid
