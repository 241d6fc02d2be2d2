import DataGrid.Proofs.Steps
import DataGrid.Proofs.Table.Basic
import DataGrid.View.PortfolioType

/-!
# Building tables

A table is made by steps that put columns at the end of a draft or set one of its other parts, and
is checked when all steps are done. The check is exact: it looks at the identity field that was set
last and then at the columns from the left, and names the first fault.

## Main definitions

* `Column.ReadsDeclared`: columns that read no undeclared field
* `TableDraft.Step`, `TableDraft.ofSteps`: the steps that drafts are made by
* `TableDraft.lastIdField`: the identity field that was set last

## Main results

* `TableDraft.columns_ofSteps`, `TableDraft.idField_ofSteps`: what steps come to
* `TableDraft.table_build_exact`: which drafts are built, why others are refused, and which columns
  the table has
-/

namespace DataGrid

variable {ρ : Type}

/-- **Declared fields.** Rows declare the field that the column reads, if it reads one. -/
def Column.ReadsDeclared [RowView ρ] (c : Column ρ) : Prop :=
  ∀ field, c.source = .field field → field ∈ RowView.fields ρ

theorem Column.readsDeclared_iff [RowView ρ] {c : Column ρ} :
    c.ReadsDeclared ↔ ∀ field ∈ c.source.field?, field ∈ RowView.fields ρ := by
  rw [ReadsDeclared]
  cases c.source with
  | field name => simp [Source.field?]
  | computed compute => simp [Source.field?]

namespace TableDraft

/-! ## Steps -/

/-- **Step.** One call that adds to a draft or sets a part of it. -/
inductive Step (ρ : Type) where
  | idField (field : String)
  | column (c : Column ρ)
  | columnIf (condition : Bool) (c : Column ρ)
  | columnsFrom (cs : List (Column ρ))
  | emptyMessageKey (key : String)
  | rowAction (action : ρ → String)
  | settings (settings : FormatSettings)

/-- The columns that a step adds. -/
def Step.columns : Step ρ → List (Column ρ)
  | column c => [c]
  | columnIf condition c => if condition then [c] else []
  | columnsFrom cs => cs
  | idField _ | emptyMessageKey _ | rowAction _ | settings _ => []

/-- The identity field that a step sets. -/
def Step.idField? : Step ρ → Option String
  | idField field => some field
  | _ => none

/-- The draft after a step. -/
def after (draft : TableDraft ρ) : Step ρ → TableDraft ρ
  | .idField field => draft.withIdField field
  | .column c => draft.column c
  | .columnIf condition c => draft.columnIf condition c
  | .columnsFrom cs => draft.columnsFrom cs
  | .emptyMessageKey key => draft.withEmptyMessageKey key
  | .rowAction action => draft.withRowAction action
  | .settings settings => draft.withSettings settings

/-- The draft that steps make, the first one first. -/
def ofSteps (steps : List (Step ρ)) : TableDraft ρ := steps.foldl after {}

/-- The identity field that steps set last. -/
def lastIdField (steps : List (Step ρ)) : String := (steps.filterMap Step.idField?).getLastD "id"

/-! ## What steps come to -/

theorem columns_after (draft : TableDraft ρ) (step : Step ρ) :
    (draft.after step).columns = draft.columns ++ step.columns := by
  cases step with
  | column | columnsFrom => rfl
  | columnIf condition c =>
    cases condition with
    | true => rfl
    | false => exact (List.append_nil _).symm
  | idField | emptyMessageKey | rowAction | settings => exact (List.append_nil _).symm

theorem idField_after (draft : TableDraft ρ) (step : Step ρ) :
    (draft.after step).idField = step.idField?.getD draft.idField := by
  cases step with
  | columnIf condition c => cases condition <;> rfl
  | idField | column | columnsFrom | emptyMessageKey | rowAction | settings => rfl

/-- The columns are those that the steps added, in order. -/
theorem columns_ofSteps (steps : List (Step ρ)) :
    (ofSteps steps).columns = steps.flatMap Step.columns :=
  foldl_eq_append_flatMap columns_after {} steps

/-- The identity field is the one that was set last. -/
theorem idField_ofSteps (steps : List (Step ρ)) : (ofSteps steps).idField = lastIdField steps :=
  foldl_eq_getLastD_filterMap idField_after {} steps

/-! ## The check of what steps made -/

variable [RowView ρ] {steps : List (Step ρ)}

theorem columnFault?_eq_some_iff {c : Column ρ} {e : TableError} :
    columnFault? (RowView.fields ρ) c = some e ↔
      ∃ field, c.source = .field field ∧ field ∉ RowView.fields ρ ∧
        e = .unknownField field c.name := by
  rw [columnFault?]
  cases c.source with
  | computed compute => simp [Source.field?]
  | field name => simp [Source.field?, eq_comm]

theorem build_ofSteps_eq_ok_iff {t : Table ρ} :
    (ofSteps steps).build = .ok t ↔
      (lastIdField steps ∈ RowView.fields ρ ∧
        ((steps.flatMap Step.columns).map (·.name)).Nodup ∧
          ∀ c ∈ steps.flatMap Step.columns, c.ReadsDeclared) ∧
      (ofSteps steps).toTable = t := by
  simp only [build_eq_ok_iff, columns_ofSteps, idField_ofSteps, Column.readsDeclared_iff]

/-- **Refusal.** The error is for the identity field, or else for a column behind columns of
different names that read declared fields. It is for the repeated name if that is one of theirs,
and else for the field. -/
theorem build_ofSteps_eq_error_iff {e : TableError} :
    (ofSteps steps).build = .error e ↔
      (lastIdField steps ∉ RowView.fields ρ ∧ e = .unknownIdField (lastIdField steps)) ∨
        (lastIdField steps ∈ RowView.fields ρ ∧
          ∃ before c after, steps.flatMap Step.columns = before ++ c :: after ∧
            ((before.map (·.name)).Nodup ∧ ∀ b ∈ before, b.ReadsDeclared) ∧
              ((c.name ∈ before.map (·.name) ∧ e = .duplicateColumn c.name) ∨
                (c.name ∉ before.map (·.name) ∧ ∃ field, c.source = .field field ∧
                  field ∉ RowView.fields ρ ∧ e = .unknownField field c.name))) := by
  rw [build_eq_error_iff, checkColumns_eq_checkNamed, checkNamed_nil_eq_error_iff, columns_ofSteps,
    idField_ofSteps]
  simp only [columnFault?_eq_none_iff, columnFault?_eq_some_iff, Column.readsDeclared_iff]

/-- **Exact building.** Whatever steps made a draft, it is built just where the identity field that
was set last is declared, the columns have different names and the fields that they read are
declared. Else it is refused for the identity field, or for the first column that has the name of
one before or reads an undeclared field, and for the name if it has both. A table that is built has
the columns that were added, in order. -/
theorem table_build_exact (steps : List (Step ρ)) :
    ((∃ t, (ofSteps steps).build = .ok t) ↔
      lastIdField steps ∈ RowView.fields ρ ∧
        ((steps.flatMap Step.columns).map (·.name)).Nodup ∧
          ∀ c ∈ steps.flatMap Step.columns, c.ReadsDeclared) ∧
    (∀ e, (ofSteps steps).build = .error e ↔
      (lastIdField steps ∉ RowView.fields ρ ∧ e = .unknownIdField (lastIdField steps)) ∨
        (lastIdField steps ∈ RowView.fields ρ ∧
          ∃ before c after, steps.flatMap Step.columns = before ++ c :: after ∧
            ((before.map (·.name)).Nodup ∧ ∀ b ∈ before, b.ReadsDeclared) ∧
              ((c.name ∈ before.map (·.name) ∧ e = .duplicateColumn c.name) ∨
                (c.name ∉ before.map (·.name) ∧ ∃ field, c.source = .field field ∧
                  field ∉ RowView.fields ρ ∧ e = .unknownField field c.name)))) ∧
    ∀ t, (ofSteps steps).build = .ok t →
      t.columns = steps.flatMap Step.columns ∧ t.idField = lastIdField steps := by
  refine ⟨?_, fun e => build_ofSteps_eq_error_iff, ?_⟩
  · simp only [build_ofSteps_eq_ok_iff, exists_and_left, exists_eq', and_true]
  · intro t ht
    obtain ⟨-, rfl⟩ := build_ofSteps_eq_ok_iff.mp ht
    exact ⟨columns_ofSteps steps, idField_ofSteps steps⟩

/-- An identity field that is set again, a column, one whose condition fails, and one of a list. -/
def typeSteps : List (Step PortfolioTypeRow) :=
  [.idField "nr", .column (.ofField "name" "name" ""), .columnIf false (.ofField "name" "nmae" ""),
    .idField "id", .columnsFrom [.computed "count" "" fun _ => .null]]

/-- These steps make a table of two columns. With one more column whose name is repeated and whose
field is not declared, they are refused for the name, and with an undeclared identity field they
are refused for that. -/
theorem build_typeSteps :
    (∃ t, (ofSteps typeSteps).build = .ok t ∧ t.columns.map (·.name) = ["name", "count"] ∧
      t.idField = "id") ∧
    (ofSteps (typeSteps ++ [.column (.ofField "name" "nmae" "")])).build =
      .error (.duplicateColumn "name") ∧
    (ofSteps (typeSteps ++ [.column (.ofField "name" "nmae" ""), .idField "nr"])).build =
      .error (.unknownIdField "nr") := by
  have hdeclared : ∀ c ∈ typeSteps.flatMap Step.columns, c.ReadsDeclared := by
    simp only [Column.readsDeclared_iff]
    decide
  have hnodup : ((typeSteps.flatMap Step.columns).map (·.name)).Nodup := by decide
  have hid : "id" ∈ RowView.fields PortfolioTypeRow := by decide
  refine ⟨?_, ?_, ?_⟩
  · obtain ⟨t, hbuild⟩ := (table_build_exact typeSteps).1.mpr ⟨hid, hnodup, hdeclared⟩
    obtain ⟨hcolumns, hfield⟩ := (table_build_exact typeSteps).2.2 t hbuild
    exact ⟨t, hbuild, congrArg (List.map (·.name)) hcolumns, hfield⟩
  · exact ((table_build_exact _).2.1 _).mpr (.inr ⟨hid, typeSteps.flatMap Step.columns,
      .ofField "name" "nmae" "", [], rfl, ⟨hnodup, hdeclared⟩, .inl ⟨by decide, rfl⟩⟩)
  · exact ((table_build_exact _).2.1 _).mpr (.inl ⟨by decide, rfl⟩)

end TableDraft

end DataGrid
