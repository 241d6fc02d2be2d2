import DataGrid.Proofs.Attribute.Basic
import DataGrid.Proofs.Table.Basic

/-!
# Keys of attributes

The key of an attribute makes up the name of its column and the path of its values. So the columns
of attributes pass the check behind other columns if their keys are all different, and in filters
also if the keys are paths.

## Main definitions

* `IsDotted`: the keys that are paths
* `RefusesRepeats`, `RefusesKeys`: which attributes a table and a filter are refused for
* `FixedColumns`: the columns of a list that are not those of attributes

## Main results

* `attributeColumnName_injective`: different keys have different columns
* `isFieldPath_attribute_iff`: the path of an attribute is good if its key is
* `FixedColumns.refusesRepeats`: a list is refused for repeated keys only
* `checkNamed_attributes_eq_error_iff`: attributes are refused for the first bad key
-/

namespace DataGrid

/-! ## Names and paths -/

/-- Different keys have different columns. -/
theorem attributeColumnName_injective : Function.Injective attributeColumnName := by
  intro key key' h
  have hchars : "custom_attribute_".toList ++ key.toList =
      "custom_attribute_".toList ++ key'.toList := by
    rw [← String.toList_append, ← String.toList_append]
    exact congrArg String.toList h
  exact String.toList_injective (List.append_cancel_left hchars)

/-- **Dotted keys.** The parts between points are not empty and made of letters, digits and
underscores. -/
def IsDotted (key : String) : Prop :=
  ∀ segment ∈ key.toList.splitOnP (· == '.'),
    segment ≠ [] ∧ ∀ c ∈ segment, c.isAlphanum ∨ c = '_'

theorem isFieldPath_iff {path : String} : isFieldPath path ↔ IsDotted path := by
  simp [isFieldPath, IsDotted, isPathChar]

/-- The path of an attribute is good if its key is. -/
theorem isFieldPath_attribute_iff {key : String} :
    isFieldPath ("custom_attributes." ++ key) ↔ IsDotted key := by
  -- the first segment ends at the point, and the others are those of the key
  have hsegments : ("custom_attributes." ++ key).toList.splitOnP (· == '.') =
      "custom_attributes".toList :: key.toList.splitOnP (· == '.') := by
    have hpoint : "custom_attributes.".toList = "custom_attributes".toList ++ '.' :: [] := by
      decide
    rw [String.toList_append, hpoint, List.append_assoc, List.cons_append, List.nil_append,
      List.splitOnP_append_cons _ _ (by decide)]
    rfl
  have hfirst : "custom_attributes".toList ≠ [] ∧
      ∀ c ∈ "custom_attributes".toList, c.isAlphanum ∨ c = '_' :=
    isFieldPath_iff.mp (by decide +kernel : isFieldPath "custom_attributes") _ (by decide +kernel)
  rw [isFieldPath_iff, IsDotted, hsegments, List.forall_mem_cons, and_iff_right hfirst]
  rfl

theorem attributeColumnName_mem_map_iff {key : String} {definitions : List AttributeDefinition} :
    attributeColumnName key ∈ definitions.map (fun d => attributeColumnName d.key) ↔
      key ∈ definitions.map (·.key) := by
  simp only [List.mem_map, attributeColumnName_injective.eq_iff]

theorem nodup_map_attributeColumnName_iff {definitions : List AttributeDefinition} :
    (definitions.map fun d => attributeColumnName d.key).Nodup ↔
      (definitions.map (·.key)).Nodup := by
  rw [← List.nodup_map_iff attributeColumnName_injective (l := definitions.map (·.key)),
    List.map_map]
  rfl

/-! ## Checks behind other columns -/

section Check

variable {ε : Type} {repeated : String → ε} {fault? : AttributeDefinition → Option ε}
  {seen : List String} {definitions : List AttributeDefinition}

/-- Attributes pass behind columns that are named otherwise if their keys are all different and
they have no fault. -/
theorem checkNamed_attributes_eq_ok_iff
    (hseen : ∀ name ∈ seen, ¬ "custom_attribute_".toList <+: name.toList) :
    checkNamed (fun d => attributeColumnName d.key) repeated fault? seen definitions = .ok () ↔
      (definitions.map (·.key)).Nodup ∧ ∀ d ∈ definitions, fault? d = none := by
  have hdisjoint : (definitions.map fun d => attributeColumnName d.key).Disjoint seen := by
    intro name hname
    obtain ⟨d, -, rfl⟩ := List.mem_map.mp hname
    exact attributeColumnName_notMem d.key hseen
  rw [checkNamed_eq_ok_iff, nodup_map_attributeColumnName_iff, and_iff_left hdisjoint]

/-- Attributes are refused behind columns that are named otherwise for the first one whose key is
repeated or that has a fault. -/
theorem checkNamed_attributes_eq_error_iff
    (hseen : ∀ name ∈ seen, ¬ "custom_attribute_".toList <+: name.toList) {e : ε} :
    checkNamed (fun d => attributeColumnName d.key) repeated fault? seen definitions = .error e ↔
      ∃ before d after, definitions = before ++ d :: after ∧
        ((before.map (·.key)).Nodup ∧ ∀ b ∈ before, fault? b = none) ∧
          ((d.key ∈ before.map (·.key) ∧ e = repeated (attributeColumnName d.key)) ∨
            (d.key ∉ before.map (·.key) ∧ fault? d = some e)) := by
  have hmem : ∀ (d : AttributeDefinition) (before : List AttributeDefinition),
      attributeColumnName d.key ∈ before.map (fun d => attributeColumnName d.key) ++ seen ↔
        d.key ∈ before.map (·.key) := by
    intro d before
    rw [List.mem_append, or_iff_left (attributeColumnName_notMem d.key hseen),
      attributeColumnName_mem_map_iff]
  rw [checkNamed_eq_error_iff]
  simp only [checkNamed_attributes_eq_ok_iff hseen, hmem]

end Check

namespace AttributeStore

theorem checkColumns_columns {ρ : Type} [RowView ρ] (store : AttributeStore) (domain : String)
    (fields seen : List String) :
    TableDraft.checkColumns fields seen (store.columns domain : List (Column ρ)) =
      checkNamed (fun d => attributeColumnName d.key) .duplicateColumn (fun _ => none) seen
        (store.definitions domain) := by
  rw [TableDraft.checkColumns_eq_checkNamed, columns, checkNamed_map]
  rfl

/-- **Fault of a key.** It is no path. -/
def keyFault? (d : AttributeDefinition) : Option FilterError :=
  if isFieldPath ("custom_attributes." ++ d.key) then none
  else some (.invalidFieldPath ("custom_attributes." ++ d.key) (attributeColumnName d.key))

theorem keyFault?_eq_none_iff {d : AttributeDefinition} : keyFault? d = none ↔ IsDotted d.key := by
  rw [keyFault?, ← isFieldPath_attribute_iff]
  split
  · rename_i hgood
    exact iff_of_true rfl hgood
  · rename_i hbad
    exact iff_of_false (fun h => nomatch h) hbad

theorem keyFault?_eq_some_iff {d : AttributeDefinition} {e : FilterError} :
    keyFault? d = some e ↔ ¬ IsDotted d.key ∧
      e = .invalidFieldPath ("custom_attributes." ++ d.key) (attributeColumnName d.key) := by
  rw [keyFault?, ← isFieldPath_attribute_iff]
  split
  · rename_i hgood
    exact iff_of_false (fun h => nomatch h) fun h => h.1 hgood
  · rename_i hbad
    rw [Option.some.injEq, and_iff_right hbad, eq_comm]

theorem check_filterColumns (store : AttributeStore) (domain : String) (seen : List String) :
    FilterDraft.check seen (store.filterColumns domain) =
      checkNamed (fun d => attributeColumnName d.key) .duplicateFilter keyFault? seen
        (store.definitions domain) := by
  rw [FilterDraft.check_eq_checkNamed, filterColumns, checkNamed_map]
  simp only [FilterDescriptor.name_withSort, FilterDescriptor.name_new,
    FilterDraft.descriptorFault?, FilterDescriptor.fieldPath_withSort,
    FilterDescriptor.fieldPath_new]
  rfl

end AttributeStore

/-! ## Tables and filters of a store -/

/-- **Repeated keys.** A table with the columns of attributes is built just where their keys are all
different. Else it is refused for the first key that is that of an attribute before. -/
structure RefusesRepeats {ρ : Type} (definitions : List AttributeDefinition)
    (result : Except TableError (Table ρ)) : Prop where
  built : (∃ t, result = .ok t) ↔ (definitions.map (·.key)).Nodup
  refused : ∀ e, result = .error e ↔
    ∃ before d after, definitions = before ++ d :: after ∧ (before.map (·.key)).Nodup ∧
      d.key ∈ before.map (·.key) ∧ e = .duplicateColumn (attributeColumnName d.key)

/-- **Repeated keys and bad keys.** A filter with the columns of attributes is built just where
their keys are all different and dotted. Else it is refused for the first key that is that of an
attribute before or is not dotted, and for the repetition if it is both. -/
structure RefusesKeys {ε : Type} (definitions : List AttributeDefinition)
    (result : Except FilterError (FilterConfig ε)) : Prop where
  built : (∃ config, result = .ok config) ↔
    (definitions.map (·.key)).Nodup ∧ ∀ d ∈ definitions, IsDotted d.key
  refused : ∀ e, result = .error e ↔
    ∃ before d after, definitions = before ++ d :: after ∧
      ((before.map (·.key)).Nodup ∧ ∀ b ∈ before, IsDotted b.key) ∧
        ((d.key ∈ before.map (·.key) ∧ e = .duplicateFilter (attributeColumnName d.key)) ∨
          (d.key ∉ before.map (·.key) ∧ ¬ IsDotted d.key ∧
            e = .invalidFieldPath ("custom_attributes." ++ d.key) (attributeColumnName d.key)))

/-- **Fixed columns.** Columns of a list whose rows have an id, which do not depend on attributes.
They pass the check, and none of them is named like that of an attribute. -/
structure FixedColumns {ρ : Type} [RowView ρ] (fixed : List (Column ρ)) : Prop where
  declaresId : "id" ∈ RowView.fields ρ
  passes : TableDraft.checkColumns (RowView.fields ρ) [] fixed = .ok ()
  notAttributes : ∀ name ∈ fixed.map (·.name), ¬ "custom_attribute_".toList <+: name.toList

/-- **Lists with attributes.** A list of fixed columns and those of attributes is refused for
repeated keys only. -/
theorem FixedColumns.refusesRepeats {ρ : Type} [RowView ρ] {fixed : List (Column ρ)}
    (hfixed : FixedColumns fixed) {store : AttributeStore} {domain : String} {draft : TableDraft ρ}
    (hcolumns : draft.columns = fixed ++ store.columns domain) (hid : draft.idField = "id") :
    RefusesRepeats (store.definitions domain) draft.build := by
  have hdeclared : draft.idField ∈ RowView.fields ρ := hid ▸ hfixed.declaresId
  have hcheck : TableDraft.checkColumns (RowView.fields ρ) [] draft.columns =
      checkNamed (fun d => attributeColumnName d.key) .duplicateColumn (fun _ => none)
        (fixed.map (·.name)).reverse (store.definitions domain) := by
    rw [hcolumns, TableDraft.checkColumns_append, hfixed.passes, List.append_nil]
    exact store.checkColumns_columns domain _ _
  have hseen : ∀ name ∈ (fixed.map (·.name)).reverse,
      ¬ "custom_attribute_".toList <+: name.toList :=
    fun name hname => hfixed.notAttributes name (List.mem_reverse.mp hname)
  constructor
  · simp only [TableDraft.build_eq_ok_iff, ← TableDraft.checkColumns_nil_eq_ok_iff, hcheck,
      hdeclared, true_and, exists_and_left, exists_eq', and_true,
      checkNamed_attributes_eq_ok_iff hseen, implies_true]
  · intro e
    simp only [TableDraft.build_eq_error_iff, hdeclared, hcheck,
      checkNamed_attributes_eq_error_iff hseen, not_true_eq_false, false_and, false_or, true_and,
      implies_true, and_true, reduceCtorEq, and_false, or_false]

end DataGrid
