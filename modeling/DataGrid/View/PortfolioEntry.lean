import DataGrid.Attribute.Basic
import DataGrid.View.Reference

/-!
# List of portfolio entries

## Main definitions

* `firstPerActor`: of several records of one person, the first
* `PortfolioEntryRow`, `PortfolioEntryRow.new`, `PortfolioEntryRow.withStakeholders`: what the
  list shows of an entry
* `PortfolioEntryRow.hiddenAtFirst`: the columns that are not shown at first
* `PortfolioEntryRow.draft`, `PortfolioEntryRow.table`: the columns of the list
-/

namespace DataGrid

open Calendar Markup

/-- **Row of a portfolio entry.** -/
structure PortfolioEntryRow where
  id : Int64
  governanceId : Option String
  creationDate : Option Date
  name : String
  isPublic : Bool
  type : Option Reference
  manager : Option Reference
  managerOrgUnit : Option Reference
  sponsoringUnit : Option Reference
  deliveryUnits : List Reference
  portfolios : List Reference
  stakeholders : List Reference
  lifeCycleProcess : Option String
  status : Option ReportStatus
  lastReportDate : Option Date
  lastMilestone : Option String
  lastMilestoneDate : Option Date
  nextMilestone : Option String
  nextMilestoneDate : Option Date
  isConcept : Bool
  archived : Bool
  startDate : Option Date
  endDate : Option Date
  /-- The roles that a person has in the entry. -/
  stakeholderTypes : List String
  deriving Repr, DecidableEq

/-- The records of people who are not among the given ids, the first for each person. -/
def firstPerActor (seen : List Int64) : List Stakeholder → List Stakeholder
  | [] => []
  | s :: rest =>
    if seen.contains s.actor.id then firstPerActor seen rest
    else s :: firstPerActor (s.actor.id :: seen) rest

namespace PortfolioEntryRow

/-- The type of the objects in the list. -/
def domain : String := "PortfolioEntry"

/-- The row of an entry. Units, portfolios and stakeholders are in the order of their labels;
a person is a stakeholder once, and a deleted person is none. -/
def new (routes : Routes) (e : PortfolioEntry) : PortfolioEntryRow where
  id := e.id
  governanceId := e.governanceId
  creationDate := e.creationDate
  name := e.name
  isPublic := e.isPublic
  type := e.type.map (·.reference)
  manager := e.manager.map (·.reference routes)
  managerOrgUnit := (e.manager.bind (·.orgUnit)).map (·.reference routes)
  sponsoringUnit := e.sponsoringUnit.map (·.reference routes)
  deliveryUnits := sortByLabel (e.deliveryUnits.map (·.reference routes))
  portfolios := sortByLabel (e.portfolios.map (·.reference routes))
  stakeholders :=
    sortByLabel
      ((firstPerActor [] (e.stakeholders.filter (!·.actor.deleted))).map
        (·.actor.reference routes))
  lifeCycleProcess := e.lifeCycle.map (·.processName)
  status := e.lastReport.bind (·.status)
  lastReportDate := e.lastReport.bind (·.publicationDate)
  lastMilestone := e.lastMilestone.map (·.milestone.shortName)
  lastMilestoneDate := e.lastMilestone.bind (·.passedDate)
  nextMilestone := e.nextMilestone?.map (·.milestone.shortName)
  nextMilestoneDate := e.nextMilestone?.bind (·.plannedDate)
  isConcept := (e.lifeCycle.map (·.isConcept)).getD true
  archived := e.archived
  startDate := e.startDate
  endDate := e.endDate
  stakeholderTypes := []

/-- The row of an entry with the roles of stakeholders. -/
def withStakeholders (routes : Routes) (e : PortfolioEntry) (stakeholders : List Stakeholder) :
    PortfolioEntryRow :=
  { new routes e with stakeholderTypes := stakeholders.map (·.type.name) }

instance : RowView PortfolioEntryRow := .ofFields [
  ("id", (toValue ·.id)),
  ("governance_id", (toValue ·.governanceId)),
  ("creation_date", (toValue ·.creationDate)),
  ("name", (toValue ·.name)),
  ("is_public", (toValue ·.isPublic)),
  ("portfolio_entry_type", (toValue ·.type)),
  ("manager", (toValue ·.manager)),
  ("manager_org_unit", (toValue ·.managerOrgUnit)),
  ("sponsoring_unit", (toValue ·.sponsoringUnit)),
  ("delivery_units", (toValue ·.deliveryUnits)),
  ("portfolios", (toValue ·.portfolios)),
  ("stakeholders", (toValue ·.stakeholders)),
  ("life_cycle_process", (toValue ·.lifeCycleProcess)),
  ("portfolio_entry_status", fun row => toValue (row.status.map (·.name))),
  ("last_pe_report_date", (toValue ·.lastReportDate)),
  ("last_milestone", (toValue ·.lastMilestone)),
  ("last_milestone_date", (toValue ·.lastMilestoneDate)),
  ("next_milestone", (toValue ·.nextMilestone)),
  ("next_milestone_date", (toValue ·.nextMilestoneDate)),
  ("is_concept", (toValue ·.isConcept)),
  ("archived", (toValue ·.archived)),
  ("start_date", (toValue ·.startDate)),
  ("end_date", (toValue ·.endDate)),
  ("stakeholder_types", (toValue ·.stakeholderTypes))]

/-- A status as a coloured label. -/
def statusLabel (status : ReportStatus) : String :=
  "<span class=\"label label-" ++ escape status.cssClass ++ "\">" ++ escape status.name ++
    "</span>"

/-- The label of the row's status. -/
def renderStatus (row : PortfolioEntryRow) (_ : Value) (ctx : Context) : String :=
  match row.status with
  | some status => statusLabel status
  | none => ctx.empty

/-- **Hidden at first.** The columns that are not shown before a user asks for them. -/
def hiddenAtFirst (hideStakeholderTypes hideManager : Bool) : List String :=
  (if hideStakeholderTypes then ["stakeholderTypes"] else []) ++
    (if hideManager then ["manager"] else []) ++
    ["creationDate", "isPublic", "sponsoringUnit", "deliveryUnits", "portfolios",
      "stakeholders", "lastPEReportDate", "lifeCycleProcess", "archived", "lastMilestoneDate",
      "nextMilestone", "nextMilestoneDate", "startDate", "endDate"]

/-- A column with a formatter. -/
private def formatted (name field labelKey : String) (formatter : Formatter PortfolioEntryRow) :
    Column PortfolioEntryRow :=
  (Column.ofField name field labelKey).withFormatter formatter

/-- The columns that do not depend on attributes. -/
def columns : List (Column PortfolioEntryRow) := [
  .ofField "governanceId" "governance_id" "object.portfolio_entry.governance_id.label",
  formatted "creationDate" "creation_date" "object.portfolio_entry.creation_date.label" .date,
  .ofField "name" "name" "object.portfolio_entry.name.label",
  formatted "portfolioEntryType" "portfolio_entry_type" "object.portfolio_entry.type.label"
    .reference,
  linkedColumn "manager" "manager" "object.portfolio_entry.manager.label" .reference,
  linkedColumn "managerOrgUnit" "manager_org_unit"
    "object.portfolio_entry.manager_org_unit.label" .reference,
  linkedColumn "sponsoringUnit" "sponsoring_unit" "object.portfolio_entry.sponsoring_unit.label"
    .reference,
  linkedColumn "deliveryUnits" "delivery_units" "object.portfolio_entry.delivery_units.label"
    .list,
  linkedColumn "portfolios" "portfolios" "object.portfolio_entry.portfolios.label" .list,
  linkedColumn "stakeholders" "stakeholders" "object.portfolio_entry.stakeholders.label" .list,
  .ofField "lifeCycleProcess" "life_cycle_process"
    "object.portfolio_entry.life_cycle_process.label",
  formatted "portfolioEntryStatus" "portfolio_entry_status"
    "object.portfolio_entry.status.label" (.custom renderStatus),
  formatted "lastPEReportDate" "last_pe_report_date"
    "object.portfolio_entry_report.report_date.label" .date,
  formatted "archived" "archived" "object.portfolio_entry.archived.label" .boolean,
  formatted "isConcept" "is_concept" "object.portfolio_entry.is_concept.label" .boolean,
  .ofField "lastMilestone" "last_milestone" "object.portfolio_entry.last_milestone.label",
  formatted "lastMilestoneDate" "last_milestone_date"
    "object.portfolio_entry.last_milestone_date.label" .date,
  .ofField "nextMilestone" "next_milestone" "object.portfolio_entry.next_milestone.label",
  formatted "nextMilestoneDate" "next_milestone_date"
    "object.portfolio_entry.next_milestone_date.label" .date,
  formatted "stakeholderTypes" "stakeholder_types"
    "object.portfolio_entry.stakeholder_types.label" .list,
  formatted "isPublic" "is_public" "object.portfolio_entry.is_public.label" .boolean,
  formatted "startDate" "start_date" "object.portfolio_entry.start_date.label" .date,
  formatted "endDate" "end_date" "object.portfolio_entry.end_date.label" .date]

/-- What the list is made of. -/
def draft (routes : Routes) (attributes : ColumnProvider PortfolioEntryRow) :
    TableDraft PortfolioEntryRow where
  columns := columns ++ attributes domain
  rowAction := some fun row => routes.portfolioEntryOverview row.id
  emptyMessageKey := some "object.portfolio_entry.table.empty"

/-- **List of portfolio entries.** -/
def table (routes : Routes) (attributes : ColumnProvider PortfolioEntryRow) :
    Except TableError (Table PortfolioEntryRow) := (draft routes attributes).build

end PortfolioEntryRow

end DataGrid
