import DataGrid.Entity.Basic
import DataGrid.Entity.Routes
import DataGrid.Column.Basic

/-!
# References to entities

A row shows a related entity by its label and links to its page.

## Main definitions

* `Actor.reference`, `OrgUnit.reference`, `Portfolio.reference`: entities with pages
* `Named.reference`: what has no page
* `sortByLabel`: references in the order of their labels
* `linkedColumn`: a column whose cells hold links of their own
-/

namespace DataGrid

/-- A person with the address of the person's page. -/
def Actor.reference (routes : Routes) (a : Actor) : Reference :=
  ⟨a.id, a.name, some (routes.actorView a.id)⟩

/-- A unit with the address of its page. -/
def OrgUnit.reference (routes : Routes) (o : OrgUnit) : Reference :=
  ⟨o.id, o.name, some (routes.orgUnitView o.id)⟩

/-- A portfolio with the address of its page. -/
def Portfolio.reference (routes : Routes) (p : Portfolio) : Reference :=
  ⟨p.id, p.name, some (routes.portfolioOverview p.id)⟩

/-- Something that has no page. -/
def Named.reference (n : Named) : Reference := ⟨n.id, n.name, none⟩

/-- Whether a label may stand before another one, by code points. -/
def byLabel (a b : Reference) : Bool := !(b.label < a.label)

/-- References in the order of their labels; those with one label keep their order. -/
def sortByLabel (refs : List Reference) : List Reference := refs.mergeSort byLabel

/-- A column whose cells hold links of their own, so that they leave the row's link alone. -/
def linkedColumn {ρ : Type} (name field labelKey : String) (formatter : Formatter ρ) :
    Column ρ :=
  ((Column.ofField name field labelKey).withFormatter formatter).withValueCss Markup.skipClass

end DataGrid
