import DataGrid.Attribute.Basic
import DataGrid.Proofs.Filter.Config

/-!
# Columns of attributes

An attribute has one column in tables and one in filters, and both have the same name. The column in
a table shows the values that the store has for the attribute's key.

## Main definitions

* `AttributeStore.column`: the column of one attribute

## Main results

* `AttributeStore.map_name_columns`, `AttributeStore.map_name_filterColumns`: the names of the
  columns of attributes
* `AttributeStore.render_column`: what the column of an attribute shows
* `attributeColumnName_notMem`: no other column has the name of an attribute's column
-/

namespace DataGrid

namespace AttributeStore

/-! ## Names -/

theorem map_name_columns {ρ : Type} [RowView ρ] (store : AttributeStore) (domain : String) :
    (store.columns domain : List (Column ρ)).map (·.name) =
      (store.definitions domain).map fun d => attributeColumnName d.key := by
  rw [columns, List.map_map]
  rfl

theorem map_name_filterColumns (store : AttributeStore) (domain : String) :
    (store.filterColumns domain).map (·.name) =
      (store.definitions domain).map fun d => attributeColumnName d.key := by
  rw [filterColumns, List.map_map]
  refine List.map_congr_left fun d _ => ?_
  simp [FilterDescriptor.new]

/-! ## The column of one attribute -/

variable {ρ : Type} [RowView ρ] (store : AttributeStore) (domain : String)

/-- The column of an attribute. -/
def column (d : AttributeDefinition) : Column ρ :=
  (Column.computed (attributeColumnName d.key) d.labelKey fun row =>
    match (RowView.value row "id").id? with
    | some id => store.value domain id d.key
    | none => .null).withFormatter d.kind.formatter

theorem columns_eq_map :
    (store.columns domain : List (Column ρ)) =
      (store.definitions domain).map (store.column domain) :=
  rfl

theorem extract_column (d : AttributeDefinition) {row : ρ} {id : Int64}
    (hid : (RowView.value row "id").id? = some id) :
    (store.column domain d).extract row = store.value domain id d.key := by
  simp only [column, Column.computed, Column.withFormatter, Column.extract, hid]

theorem render_column (d : AttributeDefinition) {row : ρ} {id : Int64}
    (hid : (RowView.value row "id").id? = some id) (ctx : Context) :
    (store.column domain d).render row ctx =
      d.kind.formatter.apply row (store.value domain id d.key) ctx := by
  rw [← store.extract_column domain d hid]
  rfl

end AttributeStore

/-- Names that do not start like those of attributes are none of them. -/
theorem attributeColumnName_notMem {names : List String} (key : String)
    (h : ∀ name ∈ names, ¬ "custom_attribute_".toList <+: name.toList) :
    attributeColumnName key ∉ names := by
  intro hmem
  exact h _ hmem ⟨key.toList, String.toList_append.symm⟩

end DataGrid
