import DataGrid.Numeric.Digits

/-!
# Routes

The addresses of the pages that list views link to.

## Main definitions

* `Routes`: an address for each page
* `Routes.standard`: the usual addresses
* `Routes.under`: the usual addresses behind a text
-/

namespace DataGrid

/-- **Routes.** -/
structure Routes where
  actorView : Int64 → String
  orgUnitView : Int64 → String
  portfolioOverview : Int64 → String
  portfolioEntryOverview : Int64 → String
  purchaseOrderView : Int64 → String
  lineItemView : Int64 → String
  costCenterView : Int64 → String
  /-- By entry, work order and line item. -/
  selectLineItem : Int64 → Int64 → Int64 → String
  managePortfolioType : Int64 → String
  deletePortfolioType : Int64 → String
  /-- By portfolio and stakeholder. -/
  manageStakeholder : Int64 → Int64 → String
  /-- By portfolio and stakeholder. -/
  deleteStakeholder : Int64 → Int64 → String
  managerSearch : String

/-- An id in an address. -/
def idText (id : Int64) : String := String.ofList (Numeric.signed id.toInt)

namespace Routes

/-- The usual addresses behind a text. -/
def under (base : String) : Routes where
  actorView id := base ++ "/actor/" ++ idText id ++ "/view"
  orgUnitView id := base ++ "/org-unit/" ++ idText id ++ "/view?page=0"
  portfolioOverview id := base ++ "/portfolio/" ++ idText id ++ "/overview"
  portfolioEntryOverview id := base ++ "/portfolio-entry/" ++ idText id ++ "/overview"
  purchaseOrderView id := base ++ "/purchase-order/" ++ idText id ++ "/view"
  lineItemView id := base ++ "/purchase-order/line-item/" ++ idText id ++ "/view"
  costCenterView id := base ++ "/cost-center/" ++ idText id ++ "/view"
  selectLineItem entry order item :=
    base ++ "/portfolio-entry/" ++ idText entry ++ "/financial/work-order/" ++ idText order ++
      "/line-item/" ++ idText item ++ "/select"
  managePortfolioType id := base ++ "/admin/config/portfolio/type/" ++ idText id ++ "/manage"
  deletePortfolioType id := base ++ "/admin/config/portfolio/type/" ++ idText id ++ "/delete"
  manageStakeholder portfolio id :=
    base ++ "/portfolio/" ++ idText portfolio ++ "/stakeholder/" ++ idText id ++ "/manage"
  deleteStakeholder portfolio id :=
    base ++ "/portfolio/" ++ idText portfolio ++ "/stakeholder/" ++ idText id ++ "/delete"
  managerSearch := base ++ "/json/manager"

/-- **Usual addresses.** -/
def standard : Routes := under ""

end Routes

end DataGrid
