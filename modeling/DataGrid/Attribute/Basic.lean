import DataGrid.Filter.Config
import DataGrid.Table.Basic

/-!
# Attributes

Objects of a type can have attributes that are defined at run time. Each attribute becomes a
column of the tables and filters of that type.

## Main definitions

* `ColumnProvider`, `FilterProvider`: more columns for the objects of a type
* `AttributeStore`: the defined attributes, and their values by object
* `AttributeStore.columns`, `AttributeStore.filterColumns`: the columns of attributes
* `AttributeEntries`, `AttributeEntries.store`: attributes in memory, and their store
-/

namespace DataGrid

/-- **Column provider.** More columns for the tables of a type of objects. -/
abbrev ColumnProvider (ρ : Type) := String → List (Column ρ)

/-- **Filter provider.** More columns for the filters of a type of objects. -/
abbrev FilterProvider := String → List FilterDescriptor

/-- What values an attribute has. -/
inductive AttributeKind where
  | text
  | boolean
  | number
  | date
  | reference
  deriving Repr, DecidableEq

/-- An attribute. -/
structure AttributeDefinition where
  /-- Unique among the attributes of a type. -/
  key : String
  labelKey : String
  kind : AttributeKind
  /-- Whether it can be filtered by. -/
  filterable : Bool
  deriving Repr, DecidableEq

/-- **Attribute store.** -/
structure AttributeStore where
  /-- The attributes of a type, in order. -/
  definitions : String → List AttributeDefinition
  /-- The value of an attribute, by type, object and key. -/
  value : String → Int64 → String → Value

/-- The key of an attribute's column. -/
def attributeColumnName (key : String) : String := "custom_attribute_" ++ key

/-- How values of a kind are written. -/
def AttributeKind.formatter {ρ : Type} : AttributeKind → Formatter ρ
  | text => .plain
  | boolean => .boolean
  | number => .number
  | date => .date
  | reference => .reference

/-- What an attribute is filtered with. -/
def AttributeDefinition.widget (d : AttributeDefinition) : Widget :=
  if d.filterable then
    match d.kind with
    | .boolean => .checkbox true
    | .date => .dateRange none none
    | .text | .number => .textField "*"
    | .reference => .none
  else .none

namespace AttributeStore

/-- **Attribute columns.** The columns of the attributes of a type. A row is known by its
field `id`. -/
def columns {ρ : Type} [RowView ρ] (store : AttributeStore) : ColumnProvider ρ := fun domain =>
  (store.definitions domain).map fun d =>
    (Column.computed (attributeColumnName d.key) d.labelKey fun row =>
      match (RowView.value row "id").id? with
      | some id => store.value domain id d.key
      | none => .null).withFormatter d.kind.formatter

/-- The filter columns of the attributes of a type. They cannot be sorted by. -/
def filterColumns (store : AttributeStore) : FilterProvider := fun domain =>
  (store.definitions domain).map fun d =>
    (FilterDescriptor.new (attributeColumnName d.key) ("custom_attributes." ++ d.key) d.labelKey
      d.widget).withSort .none

end AttributeStore

/-- **Attributes in memory.** The later of two values for one type, object and key counts. -/
structure AttributeEntries where
  definitions : List (String × AttributeDefinition) := []
  values : List ((String × Int64 × String) × Value) := []

/-- The store of attributes in memory. -/
def AttributeEntries.store (entries : AttributeEntries) : AttributeStore where
  definitions domain := (entries.definitions.filter (·.1 == domain)).map Prod.snd
  value domain id key :=
    ((entries.values.reverse.find? (·.1 == (domain, id, key))).map Prod.snd).getD .null

end DataGrid
