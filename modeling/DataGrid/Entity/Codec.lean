import DataGrid.Entity.Basic
import DataGrid.Value.Codec

/-!
# Entities as JSON

An entity is an object of its fields, all of which are written. Fields that may be missing are
null when they are.

## Main definitions

* `encode` and `decode` of each entity: its JSON form, and reading it back
-/

namespace DataGrid

open Json Numeric Calendar

/-- An id as JSON. -/
def encodeId (id : Int64) : Json := Json.int id.toInt

/-- What may be missing as JSON. -/
def encode? {α : Type} (encode : α → Json) (a : Option α) : Json := (a.map encode).getD .null

/-- A decimal as JSON. -/
def encodeDecimal (d : Decimal) : Json := .string d.text

/-- A date as JSON. -/
def encodeDate (d : Date) : Json := .string d.text

/-- The JSON form of something with a name. -/
def Named.encode (n : Named) : Json := .object [("id", encodeId n.id), ("name", .string n.name)]

/-- Reading something with a name. -/
def Named.decode : Decoder Named :=
  Decoder.record ["id", "name"] fun m =>
    Named.mk <$> m.required "id" Decoder.int64 <*> m.required "name" Decoder.text

/-! ## People and units -/

mutual

/-- The JSON form of a unit. -/
def OrgUnit.encode : OrgUnit → Json
  | ⟨id, refId, name, type, isActive, manager⟩ =>
    .object [("id", encodeId id), ("ref_id", encodeText? refId), ("name", .string name),
      ("org_unit_type", encode? Named.encode type), ("is_active", .bool isActive),
      ("manager", match manager with | none => .null | some a => a.encode)]

/-- The JSON form of a person. -/
def Actor.encode : Actor → Json
  | ⟨id, uid, employeeId, firstName, lastName, title, isActive, deleted, orgUnit, manager⟩ =>
    .object [("id", encodeId id), ("uid", .string uid), ("employee_id", encodeText? employeeId),
      ("first_name", .string firstName), ("last_name", .string lastName),
      ("title", encodeText? title), ("is_active", .bool isActive), ("deleted", .bool deleted),
      ("org_unit", match orgUnit with | none => .null | some o => o.encode),
      ("manager", match manager with | none => .null | some a => a.encode)]

end

mutual

/-- Reading a unit that is nested at most so deep. -/
def OrgUnit.decodeTo : Nat → Decoder OrgUnit
  | 0 => Decoder.record [] fun m => .fault m.limit .malformed
  | depth + 1 =>
    Decoder.record ["id", "ref_id", "name", "org_unit_type", "is_active", "manager"] fun m =>
      OrgUnit.mk <$> m.required "id" Decoder.int64 <*> m.optional "ref_id" Decoder.text <*>
        m.required "name" Decoder.text <*> m.optional "org_unit_type" Named.decode <*>
        m.required "is_active" Decoder.bool <*> m.optional "manager" (Actor.decodeTo depth)

/-- Reading a person that is nested at most so deep. -/
def Actor.decodeTo : Nat → Decoder Actor
  | 0 => Decoder.record [] fun m => .fault m.limit .malformed
  | depth + 1 =>
    Decoder.record
      ["id", "uid", "employee_id", "first_name", "last_name", "title", "is_active", "deleted",
        "org_unit", "manager"] fun m =>
      Actor.mk <$> m.required "id" Decoder.int64 <*> m.required "uid" Decoder.text <*>
        m.optional "employee_id" Decoder.text <*> m.required "first_name" Decoder.text <*>
        m.required "last_name" Decoder.text <*> m.optional "title" Decoder.text <*>
        m.required "is_active" Decoder.bool <*> m.required "deleted" Decoder.bool <*>
        m.optional "org_unit" (OrgUnit.decodeTo depth) <*>
        m.optional "manager" (Actor.decodeTo depth)

end

/-- Reading a unit. -/
def OrgUnit.decode : Decoder OrgUnit := fun site f => OrgUnit.decodeTo site.depth site f

/-- Reading a person. -/
def Actor.decode : Decoder Actor := fun site f => Actor.decodeTo site.depth site f

/-! ## Portfolios -/

/-- The JSON form of a kind of portfolio. -/
def PortfolioType.encode (t : PortfolioType) : Json :=
  .object [("id", encodeId t.id), ("name", .string t.name),
    ("description", encodeText? t.description), ("selectable", .bool t.selectable)]

/-- Reading a kind of portfolio. -/
def PortfolioType.decode : Decoder PortfolioType :=
  Decoder.record ["id", "name", "description", "selectable"] fun m =>
    PortfolioType.mk <$> m.required "id" Decoder.int64 <*> m.required "name" Decoder.text <*>
      m.optional "description" Decoder.text <*> m.required "selectable" Decoder.bool

/-- The JSON form of a portfolio. -/
def Portfolio.encode (p : Portfolio) : Json :=
  .object [("id", encodeId p.id), ("ref_id", encodeText? p.refId), ("name", .string p.name),
    ("portfolio_type", encode? PortfolioType.encode p.type), ("is_active", .bool p.isActive),
    ("manager", encode? Actor.encode p.manager)]

/-- Reading a portfolio. -/
def Portfolio.decode : Decoder Portfolio :=
  Decoder.record ["id", "ref_id", "name", "portfolio_type", "is_active", "manager"] fun m =>
    Portfolio.mk <$> m.required "id" Decoder.int64 <*> m.optional "ref_id" Decoder.text <*>
      m.required "name" Decoder.text <*> m.optional "portfolio_type" PortfolioType.decode <*>
      m.required "is_active" Decoder.bool <*> m.optional "manager" Actor.decode

/-- The JSON form of a stakeholder. -/
def Stakeholder.encode (s : Stakeholder) : Json :=
  .object [("id", encodeId s.id), ("actor", s.actor.encode),
    ("stakeholder_type", s.type.encode), ("portfolio_id", encode? encodeId s.portfolioId)]

/-- Reading a stakeholder. -/
def Stakeholder.decode : Decoder Stakeholder :=
  Decoder.record ["id", "actor", "stakeholder_type", "portfolio_id"] fun m =>
    Stakeholder.mk <$> m.required "id" Decoder.int64 <*> m.required "actor" Actor.decode <*>
      m.required "stakeholder_type" Named.decode <*> m.optional "portfolio_id" Decoder.int64

/-! ## Portfolio entries -/

/-- The JSON form of a milestone. -/
def Milestone.encode (m : Milestone) : Json :=
  .object [("id", encodeId m.id), ("short_name", .string m.shortName), ("name", .string m.name)]

/-- Reading a milestone. -/
def Milestone.decode : Decoder Milestone :=
  Decoder.record ["id", "short_name", "name"] fun m =>
    Milestone.mk <$> m.required "id" Decoder.int64 <*> m.required "short_name" Decoder.text <*>
      m.required "name" Decoder.text

/-- The JSON form of a milestone that has been passed. -/
def PassedMilestone.encode (m : PassedMilestone) : Json :=
  .object [("milestone", m.milestone.encode), ("passed_date", encode? encodeDate m.passedDate)]

/-- Reading a milestone that has been passed. -/
def PassedMilestone.decode : Decoder PassedMilestone :=
  Decoder.record ["milestone", "passed_date"] fun m =>
    PassedMilestone.mk <$> m.required "milestone" Milestone.decode <*>
      m.optional "passed_date" Date.decode

/-- The JSON form of a milestone that is planned. -/
def PlannedMilestone.encode (m : PlannedMilestone) : Json :=
  .object [("milestone", m.milestone.encode), ("planned_date", encode? encodeDate m.plannedDate),
    ("passed", .bool m.passed)]

/-- Reading a milestone that is planned. -/
def PlannedMilestone.decode : Decoder PlannedMilestone :=
  Decoder.record ["milestone", "planned_date", "passed"] fun m =>
    PlannedMilestone.mk <$> m.required "milestone" Milestone.decode <*>
      m.optional "planned_date" Date.decode <*> m.required "passed" Decoder.bool

/-- The JSON form of a life cycle. -/
def LifeCycle.encode (l : LifeCycle) : Json :=
  .object [("process_name", .string l.processName), ("is_concept", .bool l.isConcept)]

/-- Reading a life cycle. -/
def LifeCycle.decode : Decoder LifeCycle :=
  Decoder.record ["process_name", "is_concept"] fun m =>
    LifeCycle.mk <$> m.required "process_name" Decoder.text <*>
      m.required "is_concept" Decoder.bool

/-- The JSON form of a status. -/
def ReportStatus.encode (s : ReportStatus) : Json :=
  .object [("id", encodeId s.id), ("name", .string s.name), ("css_class", .string s.cssClass)]

/-- Reading a status. -/
def ReportStatus.decode : Decoder ReportStatus :=
  Decoder.record ["id", "name", "css_class"] fun m =>
    ReportStatus.mk <$> m.required "id" Decoder.int64 <*> m.required "name" Decoder.text <*>
      m.required "css_class" Decoder.text

/-- The JSON form of a report. -/
def Report.encode (r : Report) : Json :=
  .object [("id", encodeId r.id), ("status", encode? ReportStatus.encode r.status),
    ("publication_date", encode? encodeDate r.publicationDate)]

/-- Reading a report. -/
def Report.decode : Decoder Report :=
  Decoder.record ["id", "status", "publication_date"] fun m =>
    Report.mk <$> m.required "id" Decoder.int64 <*> m.optional "status" ReportStatus.decode <*>
      m.optional "publication_date" Date.decode

/-- The JSON form of an entry. -/
def PortfolioEntry.encode (e : PortfolioEntry) : Json :=
  .object [("id", encodeId e.id), ("governance_id", encodeText? e.governanceId),
    ("creation_date", encode? encodeDate e.creationDate), ("name", .string e.name),
    ("is_public", .bool e.isPublic), ("archived", .bool e.archived),
    ("portfolio_entry_type", encode? Named.encode e.type),
    ("manager", encode? Actor.encode e.manager),
    ("sponsoring_unit", encode? OrgUnit.encode e.sponsoringUnit),
    ("delivery_units", .array (e.deliveryUnits.map OrgUnit.encode)),
    ("portfolios", .array (e.portfolios.map Portfolio.encode)),
    ("stakeholders", .array (e.stakeholders.map Stakeholder.encode)),
    ("life_cycle", encode? LifeCycle.encode e.lifeCycle),
    ("last_milestone", encode? PassedMilestone.encode e.lastMilestone),
    ("planned_milestones", .array (e.plannedMilestones.map PlannedMilestone.encode)),
    ("last_report", encode? Report.encode e.lastReport),
    ("start_date", encode? encodeDate e.startDate),
    ("end_date", encode? encodeDate e.endDate)]

/-- Reading an entry. -/
def PortfolioEntry.decode : Decoder PortfolioEntry :=
  Decoder.record
    ["id", "governance_id", "creation_date", "name", "is_public", "archived",
      "portfolio_entry_type", "manager", "sponsoring_unit", "delivery_units", "portfolios",
      "stakeholders", "life_cycle", "last_milestone", "planned_milestones", "last_report",
      "start_date", "end_date"] fun m =>
    PortfolioEntry.mk <$> m.required "id" Decoder.int64 <*>
      m.optional "governance_id" Decoder.text <*> m.optional "creation_date" Date.decode <*>
      m.required "name" Decoder.text <*> m.required "is_public" Decoder.bool <*>
      m.required "archived" Decoder.bool <*>
      m.optional "portfolio_entry_type" Named.decode <*>
      m.optional "manager" Actor.decode <*> m.optional "sponsoring_unit" OrgUnit.decode <*>
      m.required "delivery_units" (Decoder.listOf OrgUnit.decode) <*>
      m.required "portfolios" (Decoder.listOf Portfolio.decode) <*>
      m.required "stakeholders" (Decoder.listOf Stakeholder.decode) <*>
      m.optional "life_cycle" LifeCycle.decode <*>
      m.optional "last_milestone" PassedMilestone.decode <*>
      m.required "planned_milestones" (Decoder.listOf PlannedMilestone.decode) <*>
      m.optional "last_report" Report.decode <*> m.optional "start_date" Date.decode <*>
      m.optional "end_date" Date.decode

/-! ## Purchase orders -/

/-- The JSON form of a currency. -/
def Currency.encode (c : Currency) : Json := .object [("code", .string c.code)]

/-- Reading a currency. -/
def Currency.decode : Decoder Currency :=
  Decoder.record ["code"] fun m => Currency.mk <$> m.required "code" Decoder.text

/-- The JSON form of a cost center. -/
def CostCenter.encode (c : CostCenter) : Json :=
  .object [("id", encodeId c.id), ("ref_id", encodeText? c.refId), ("name", .string c.name)]

/-- Reading a cost center. -/
def CostCenter.decode : Decoder CostCenter :=
  Decoder.record ["id", "ref_id", "name"] fun m =>
    CostCenter.mk <$> m.required "id" Decoder.int64 <*> m.optional "ref_id" Decoder.text <*>
      m.required "name" Decoder.text

/-- The JSON form of a line item. -/
def LineItem.encode (l : LineItem) : Json :=
  .object [("id", encodeId l.id), ("ref_id", .string l.refId),
    ("purchase_order_ref_id", .string l.orderRefId),
    ("currency", encode? Currency.encode l.currency),
    ("amount", encode? encodeDecimal l.amount),
    ("amount_received", encode? encodeDecimal l.amountReceived),
    ("remaining_amount", encode? encodeDecimal l.remainingAmount), ("is_opex", .bool l.isOpex),
    ("is_cancelled", .bool l.isCancelled), ("shared", .bool l.shared),
    ("associated", .bool l.associated), ("cost_center", encode? CostCenter.encode l.costCenter)]

/-- Reading a line item. -/
def LineItem.decode : Decoder LineItem :=
  Decoder.record
    ["id", "ref_id", "purchase_order_ref_id", "currency", "amount", "amount_received",
      "remaining_amount", "is_opex", "is_cancelled", "shared", "associated",
      "cost_center"] fun m =>
    LineItem.mk <$> m.required "id" Decoder.int64 <*> m.required "ref_id" Decoder.text <*>
      m.required "purchase_order_ref_id" Decoder.text <*>
      m.optional "currency" Currency.decode <*> m.optional "amount" Decimal.decode <*>
      m.optional "amount_received" Decimal.decode <*>
      m.optional "remaining_amount" Decimal.decode <*> m.required "is_opex" Decoder.bool <*>
      m.required "is_cancelled" Decoder.bool <*> m.required "shared" Decoder.bool <*>
      m.required "associated" Decoder.bool <*> m.optional "cost_center" CostCenter.decode

/-- The JSON form of a purchase order. -/
def PurchaseOrder.encode (o : PurchaseOrder) : Json :=
  .object [("id", encodeId o.id), ("ref_id", .string o.refId),
    ("is_cancelled", .bool o.isCancelled),
    ("line_items", .array (o.lineItems.map LineItem.encode))]

/-- Reading a purchase order. -/
def PurchaseOrder.decode : Decoder PurchaseOrder :=
  Decoder.record ["id", "ref_id", "is_cancelled", "line_items"] fun m =>
    PurchaseOrder.mk <$> m.required "id" Decoder.int64 <*> m.required "ref_id" Decoder.text <*>
      m.required "is_cancelled" Decoder.bool <*>
      m.required "line_items" (Decoder.listOf LineItem.decode)

/-- The JSON form of an option. -/
def Choice.encode (c : Choice) : Json :=
  .object [("value", encodeId c.value), ("name", .string c.name)]

/-- Reading an option. -/
def Choice.decode : Decoder Choice :=
  Decoder.record ["value", "name"] fun m =>
    Choice.mk <$> m.required "value" Decoder.int64 <*> m.required "name" Decoder.text

end DataGrid
