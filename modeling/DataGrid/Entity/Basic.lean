import DataGrid.Calendar.Date
import DataGrid.Numeric.Decimal

/-!
# Entities of portfolio management

People and units, portfolios and what is managed in them, and purchase orders. Entities carry
what list views read of them.

## Main definitions

* `Actor`, `OrgUnit`: people and the units they belong to
* `Portfolio`, `PortfolioEntry`, `Stakeholder`: what is managed, and who has a stake in it
* `PurchaseOrder`, `LineItem`: orders and their lines
* `Actor.name`: how a person is shown
* `PortfolioEntry.nextMilestone?`: the milestone that comes next
-/

namespace DataGrid

open Numeric Calendar

/-- Something with an id and a name. -/
structure Named where
  id : Int64
  name : String
  deriving Repr, DecidableEq

mutual

/-- **Org unit.** -/
structure OrgUnit where
  id : Int64
  refId : Option String
  name : String
  type : Option Named
  isActive : Bool
  manager : Option Actor

/-- **Actor.** A person. -/
structure Actor where
  id : Int64
  uid : String
  employeeId : Option String
  firstName : String
  lastName : String
  title : Option String
  isActive : Bool
  deleted : Bool
  orgUnit : Option OrgUnit
  manager : Option Actor

end

/-- How a person is shown: first name and last name, as far as there are any. -/
def Actor.name (a : Actor) : String :=
  if a.firstName.isEmpty then a.lastName
  else if a.lastName.isEmpty then a.firstName
  else a.firstName ++ " " ++ a.lastName

/-- A kind of portfolio. -/
structure PortfolioType where
  id : Int64
  name : String
  description : Option String
  selectable : Bool
  deriving Repr, DecidableEq

/-- **Portfolio.** -/
structure Portfolio where
  id : Int64
  refId : Option String
  name : String
  type : Option PortfolioType
  isActive : Bool
  manager : Option Actor

/-- **Stakeholder.** A person with a role. -/
structure Stakeholder where
  id : Int64
  actor : Actor
  type : Named
  portfolioId : Option Int64

/-- A milestone of a life cycle. -/
structure Milestone where
  id : Int64
  shortName : String
  name : String
  deriving Repr, DecidableEq

/-- A milestone that has been passed. -/
structure PassedMilestone where
  milestone : Milestone
  passedDate : Option Date
  deriving Repr, DecidableEq

/-- A milestone that is planned. -/
structure PlannedMilestone where
  milestone : Milestone
  plannedDate : Option Date
  passed : Bool
  deriving Repr, DecidableEq

/-- A life cycle that an entry goes through. -/
structure LifeCycle where
  processName : String
  isConcept : Bool
  deriving Repr, DecidableEq

/-- What a report can say about an entry. -/
structure ReportStatus where
  id : Int64
  name : String
  /-- How the status is coloured. -/
  cssClass : String
  deriving Repr, DecidableEq

/-- A report on an entry. -/
structure Report where
  id : Int64
  status : Option ReportStatus
  publicationDate : Option Date
  deriving Repr, DecidableEq

/-- **Portfolio entry.** What is managed in portfolios. -/
structure PortfolioEntry where
  id : Int64
  governanceId : Option String
  creationDate : Option Date
  name : String
  isPublic : Bool
  archived : Bool
  type : Option Named
  manager : Option Actor
  sponsoringUnit : Option OrgUnit
  deliveryUnits : List OrgUnit
  portfolios : List Portfolio
  stakeholders : List Stakeholder
  lifeCycle : Option LifeCycle
  lastMilestone : Option PassedMilestone
  plannedMilestones : List PlannedMilestone
  lastReport : Option Report
  startDate : Option Date
  endDate : Option Date

/-- Whether a milestone comes strictly before another one: by date, those without a date last. -/
def PlannedMilestone.isBefore (a b : PlannedMilestone) : Bool :=
  match a.plannedDate, b.plannedDate with
  | some d, some e => (d.compare e).isLT
  | some _, none => true
  | none, _ => false

/-- The first of several milestones, and of those with one date the first in the list. -/
def PlannedMilestone.first? : List PlannedMilestone → Option PlannedMilestone
  | [] => none
  | m :: rest =>
    match first? rest with
    | none => some m
    | some n => some (if n.isBefore m then n else m)

/-- **Next milestone.** The first of the milestones that are not passed. -/
def PortfolioEntry.nextMilestone? (e : PortfolioEntry) : Option PlannedMilestone :=
  PlannedMilestone.first? (e.plannedMilestones.filter (!·.passed))

/-- A currency. -/
structure Currency where
  code : String
  deriving Repr, DecidableEq

/-- A cost center. -/
structure CostCenter where
  id : Int64
  refId : Option String
  name : String
  deriving Repr, DecidableEq

/-- **Line item.** A line of a purchase order. -/
structure LineItem where
  id : Int64
  refId : String
  orderRefId : String
  currency : Option Currency
  amount : Option Decimal
  amountReceived : Option Decimal
  remainingAmount : Option Decimal
  isOpex : Bool
  isCancelled : Bool
  shared : Bool
  associated : Bool
  costCenter : Option CostCenter
  deriving Repr, DecidableEq

/-- **Purchase order.** -/
structure PurchaseOrder where
  id : Int64
  refId : String
  isCancelled : Bool
  lineItems : List LineItem
  deriving Repr, DecidableEq

/-- An option of a set, by number and name. -/
structure Choice where
  value : Int64
  name : String
  deriving Repr, DecidableEq

end DataGrid
