import DataGrid.Formatter.Basic
import DataGrid.Text.Words

/-!
# Columns

A column says where its values come from, how they are written and how its cells behave.
Columns are made by `Column.ofField` or `Column.computed` and refined step by step.

## Main definitions

* `RowView`, `RowView.ofFields`: what rows answer, and which fields they declare
* `Source`: a declared field, or a function of the row
* `Column`: the description of a column
* `Column.valueCss`: the classes of its cells, with the skip class where it applies
* `Column.render`: the markup of its cell in a row
-/

namespace DataGrid

open Markup

/-- **Row view.** Rows declare fields and answer values for them. -/
class RowView (ρ : Type) where
  /-- The declared fields. -/
  fields : List String
  /-- The value of a field. -/
  value : ρ → String → Value

/-- The row view that answers each declared field by a function of the row, and no value for
any other field. -/
@[reducible] def RowView.ofFields {ρ : Type} (getters : List (String × (ρ → Value))) :
    RowView ρ where
  fields := getters.map Prod.fst
  value row name :=
    match getters.lookup name with
    | some get => get row
    | .none => .null

/-- How a grid may sort by a column. -/
inductive Sorter where
  | none
  | sorted
  | unsorted
  deriving Repr, DecidableEq

/-- Where the values of a column come from. -/
inductive Source (ρ : Type) where
  | field (name : String)
  | computed (compute : ρ → Value)

/-- The name of the field that values come from. -/
def Source.field? {ρ : Type} : Source ρ → Option String
  | field name => some name
  | computed _ => .none

/-- Whether a text of classes holds the skip class. -/
def hasSkipClass (css : String) : Bool := (Text.words css).contains skipClass

/-- **Column.** -/
structure Column (ρ : Type) where
  /-- The key of the column, unique in its table. -/
  name : String
  source : Source ρ
  /-- The message key of the header. -/
  labelKey : String
  sorter : Sorter := .none
  /-- Plain where there is none. -/
  formatter : Option (Formatter ρ) := .none
  headerCss : String := ""
  /-- The classes that were set for the cells. -/
  ownCss : String := ""
  /-- Whether cells leave the row's link alone. -/
  skipsRowAction : Bool := false
  hidden : Bool := false
  /-- Rows that fail this show the placeholder. -/
  visibleIf : Option (ρ → Bool) := .none

namespace Column

variable {ρ : Type}

/-! ## Making columns -/

/-- A column that reads a field. -/
def ofField (name field labelKey : String) : Column ρ := ⟨name, .field field, labelKey, .none,
  .none, "", "", false, false, .none⟩

/-- A column whose values are computed. -/
def computed (name labelKey : String) (compute : ρ → Value) : Column ρ :=
  ⟨name, .computed compute, labelKey, .none, .none, "", "", false, false, .none⟩

/-- The column with a way to sort by it. -/
def withSorter (sorter : Sorter) (c : Column ρ) : Column ρ := { c with sorter }

/-- The column with a formatter. -/
def withFormatter (formatter : Formatter ρ) (c : Column ρ) : Column ρ :=
  { c with formatter := some formatter }

/-- The column with classes for its header. -/
def withHeaderCss (css : String) (c : Column ρ) : Column ρ := { c with headerCss := css }

/-- The column with classes for its cells. The skip class among them makes cells leave the
row's link alone. -/
def withValueCss (css : String) (c : Column ρ) : Column ρ :=
  { c with ownCss := css, skipsRowAction := c.skipsRowAction || hasSkipClass css }

/-- The column whose cells leave the row's link alone. -/
def skippingRowAction (c : Column ρ) : Column ρ := { c with skipsRowAction := true }

/-- The column, hidden or not. -/
def withHidden (hidden : Bool) (c : Column ρ) : Column ρ := { c with hidden }

/-- The column with a condition on its rows. -/
def withVisibleIf (visible : ρ → Bool) (c : Column ρ) : Column ρ :=
  { c with visibleIf := some visible }

/-! ## Using columns -/

/-- The classes of the cells. The skip class is put at the end where it applies and is not
among the classes that were set. -/
def valueCss (c : Column ρ) : String :=
  if c.skipsRowAction && !hasSkipClass c.ownCss then
    if c.ownCss.isEmpty then skipClass else c.ownCss ++ " " ++ skipClass
  else c.ownCss

/-- Whether the cell in a row is shown. -/
def isVisibleFor (c : Column ρ) (row : ρ) : Bool :=
  match c.visibleIf with
  | .none => true
  | some visible => visible row

/-- The value that a row has in the column. -/
def extract [RowView ρ] (c : Column ρ) (row : ρ) : Value :=
  match c.source with
  | .field name => RowView.value row name
  | .computed compute => compute row

/-- **Rendering.** The markup of the cell in a row. -/
def render [RowView ρ] (c : Column ρ) (row : ρ) (ctx : Context) : String :=
  if c.isVisibleFor row then (c.formatter.getD .plain).apply row (c.extract row) ctx
  else ctx.empty

end Column

end DataGrid
