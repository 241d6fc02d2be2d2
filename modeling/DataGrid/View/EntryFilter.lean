import DataGrid.Calendar.Text
import DataGrid.Entity.Lookup
import DataGrid.Entity.Routes
import DataGrid.View.PortfolioEntry

/-!
# Filter of portfolio entries

The next milestone of an entry is known only after loading, so the two columns for it bring
post queries. Without enough milestones to choose from, all columns for milestones have
nothing to filter with.

## Main definitions

* `compareMissingLast`: an order in which what is missing comes last
* `PortfolioEntry.hasNextMilestoneIn`, `PortfolioEntry.hasNextMilestoneWithin`: the tests for
  the next milestone
* `EntryFilter.draft`, `EntryFilter.config`: the columns of the filter
-/

namespace DataGrid

open Calendar

/-- An order in which what is missing comes last. -/
def compareMissingLast {α : Type} (compare : α → α → Ordering) :
    Option α → Option α → Ordering
  | some a, some b => compare a b
  | some _, none => .lt
  | none, some _ => .gt
  | none, none => .eq

/-- Texts by code points. -/
def compareText (a b : String) : Ordering := compareOfLessAndEq a b

/-- Whether the id of the next milestone is among the submitted ones. -/
def PortfolioEntry.hasNextMilestoneIn (e : PortfolioEntry) (submitted : Json) : Bool :=
  match submitted, e.nextMilestone? with
  | .array selected, some next =>
    selected.any fun v =>
      match v with
      | .string s => s == idText next.milestone.id
      | _ => false
  | _, _ => false

/-- A bound of a submitted range. What is no date is no bound. -/
def rangeBound? (name : String) (submitted : Json) : Option Date :=
  match submitted.member? name with
  | some (.string s) => Date.ofBound? s
  | _ => none

/-- Whether the date of the next milestone is within a submitted range, ends included. -/
def PortfolioEntry.hasNextMilestoneWithin (e : PortfolioEntry) (submitted : Json) : Bool :=
  match e.nextMilestone?.bind (·.plannedDate) with
  | none => false
  | some date =>
    (match rangeBound? "from" submitted with
      | some start => start.atMost date
      | none => true) &&
    (match rangeBound? "to" submitted with
      | some stop => date.atMost stop
      | none => true)

/-- The post query for the next milestone: by id, and in the order of names. -/
def nextMilestoneQuery : PostQuery PortfolioEntry where
  test := PortfolioEntry.hasNextMilestoneIn
  compare a b :=
    compareMissingLast (fun x y => compareText x.milestone.name y.milestone.name)
      a.nextMilestone? b.nextMilestone?

/-- The post query for the date of the next milestone. -/
def nextMilestoneDateQuery : PostQuery PortfolioEntry where
  test := PortfolioEntry.hasNextMilestoneWithin
  compare a b :=
    compareMissingLast Date.compare (a.nextMilestone?.bind (·.plannedDate))
      (b.nextMilestone?.bind (·.plannedDate))

/-- A number and a name as an option. -/
def Choice.option (c : Choice) : SelectOption := ⟨idText c.value, c.name⟩

namespace EntryFilter

/-- Free text. -/
def text : Widget := .textField "*"

/-- Any dates. -/
def dates : Widget := .dateRange none none

/-- A choice among the options of a set, if there are enough. -/
def select (lookup : Lookup) (settings : FilterSettings) (set : OptionSet) (display : String) :
    Widget :=
  .selectOrNone ((lookup.options set).map (·.option)) [display] settings

/-- The choice among milestones. -/
def milestones (lookup : Lookup) (settings : FilterSettings) : Widget :=
  select lookup settings .lifeCycleMilestones "lifeCycleMilestone.shortName"

/-- The columns before those for the next milestone. -/
def leadingColumns (lookup : Lookup) (routes : Routes) (settings : FilterSettings) :
    List FilterDescriptor :=
  let select := select lookup settings
  let milestones := milestones lookup settings
  [(FilterDescriptor.new "governanceId" "governanceId"
      "object.portfolio_entry.governance_id.label" text).withDisplayed true,
    .new "creationDate" "creationDate" "object.portfolio_entry.creation_date.label" dates,
    .new "isPublic" "isPublic" "object.portfolio_entry.is_public.label" (.checkbox true),
    ((FilterDescriptor.new "name" "name" "object.portfolio_entry.name.label"
      text).withDisplayed true).withSort .ascending,
    (FilterDescriptor.new "portfolioEntryType" "portfolioEntryType.id"
      "object.portfolio_entry.type.label"
      (select .portfolioEntryTypes "portfolioEntryType.name")).withDisplayed true,
    .new "manager" "manager.id" "object.portfolio_entry.manager.label"
      (.autocomplete routes.managerSearch ["manager.firstName", "manager.lastName"]),
    .new "managerOrgUnit" "manager.orgUnit.id" "object.portfolio_entry.manager_org_unit.label"
      (select .orgUnits "manager.orgUnit.name"),
    .new "sponsoringUnit" "sponsoringUnit.id" "object.portfolio_entry.sponsoring_unit.label"
      (select .orgUnits "sponsoringUnit.name"),
    .new "deliveryUnits" "deliveryUnits.id" "object.portfolio_entry.delivery_units.label"
      (select .orgUnits "deliveryUnits.name"),
    .new "portfolios" "portfolios.id" "object.portfolio_entry.portfolios.label"
      (select .portfolios "portfolios.name"),
    (FilterDescriptor.new "stakeholders" "stakeholders.actor.id"
      "object.portfolio_entry.stakeholders.label"
      (.autocomplete routes.managerSearch
        ["stakeholders.actor.firstName", "stakeholders.actor.lastName"])).withSort .none,
    .new "lifeCycleProcess" "activeLifeCycleInstance.lifeCycleProcess.id"
      "object.portfolio_entry.life_cycle_process.label"
      (select .lifeCycleProcesses "activeLifeCycleInstance.lifeCycleProcess.name"),
    .new "portfolioEntryStatus" "lastPortfolioEntryReport.portfolioEntryReportStatusType.id"
      "object.portfolio_entry.status.label"
      (select .reportStatusTypes
        "lastPortfolioEntryReport.portfolioEntryReportStatusType.name"),
    .new "lastPEReportDate" "lastPortfolioEntryReport.publicationDate"
      "object.portfolio_entry_report.report_date.label" dates,
    (FilterDescriptor.new "lastMilestone"
      "lastApprovedLifeCycleMilestoneInstance.lifeCycleMilestone.id"
      "object.portfolio_entry.last_milestone.label" milestones).withDisplayed true,
    .new "lastMilestoneDate" "lastApprovedLifeCycleMilestoneInstance.passedDate"
      "object.portfolio_entry.last_milestone_date.label"
      (if milestones.isNone then .none else dates)]

/-- The column for the next milestone. -/
def nextMilestone (fieldPath : String) (widget : Widget) : FilterDescriptor :=
  .new "nextMilestone" fieldPath "object.portfolio_entry.next_milestone.label" widget

/-- The column for the date of the next milestone. -/
def nextMilestoneDate (fieldPath : String) (widget : Widget) : FilterDescriptor :=
  .new "nextMilestoneDate" fieldPath "object.portfolio_entry.next_milestone_date.label" widget

/-- The path to the plans for milestones. -/
def planningPath : String := "activeLifeCycleInstance.lifeCycleInstancePlannings."

/-- A draft with the columns for the next milestone. -/
def withNextMilestone (widget : Widget) (draft : FilterDraft PortfolioEntry) :
    FilterDraft PortfolioEntry :=
  if widget.isNone then
    (draft.column (nextMilestone "lifeCycleMilestone.id" .none)).column
      (nextMilestoneDate "plannedDate" .none)
  else
    (draft.postQueryColumn
      (nextMilestone (planningPath ++ "plannedLifeCycleMilestoneInstance.lifeCycleMilestone.id")
        widget) nextMilestoneQuery).postQueryColumn
      (nextMilestoneDate (planningPath ++ "plannedLifeCycleMilestoneInstance.plannedDate") dates)
      nextMilestoneDateQuery

/-- What the filter is made of. -/
def draft (lookup : Lookup) (routes : Routes) (attributes : FilterProvider)
    (settings : FilterSettings) : FilterDraft PortfolioEntry :=
  (withNextMilestone (milestones lookup settings)
    ⟨leadingColumns lookup routes settings, []⟩).columnsFrom <|
    [(FilterDescriptor.new "archived" "archived" "object.portfolio_entry.archived.label"
        (.checkbox false)).asMandatory,
      .new "isConcept" "activeLifeCycleInstance.isConcept"
        "object.portfolio_entry.is_concept.label" (.checkbox false)] ++
    attributes PortfolioEntryRow.domain ++
    [.new "startDate" "startDate" "object.portfolio_entry.start_date.label" dates,
      .new "endDate" "endDate" "object.portfolio_entry.end_date.label" dates]

/-- **Filter of portfolio entries.** -/
def config (lookup : Lookup) (routes : Routes) (attributes : FilterProvider)
    (settings : FilterSettings) : Except FilterError (FilterConfig PortfolioEntry) :=
  (draft lookup routes attributes settings).build

end EntryFilter

end DataGrid
