import DataGrid.Proofs.Attribute.Keys
import DataGrid.Proofs.View.EntryFilter
import DataGrid.View.Actor
import DataGrid.View.OrgUnit
import DataGrid.View.Portfolio

/-!
# Keys of attributes in lists and in the filter of entries

The columns that lists have of their own pass the check and are not named like those of attributes.
So a list is refused for keys of attributes only, and so is the filter of portfolio entries.

## Main results

* `EntryFilter.refusesKeys_config`: the filter of entries is refused for repeated and for bad keys
* `AttributeStore.refusals_of_views`: what lists and the filter are refused for
-/

namespace DataGrid

/-! ## The filter of entries -/

namespace EntryFilter

/-- No column of the filter's own before attributes is named like one of an attribute. -/
theorem not_isPrefix_of_mem_namesBefore :
    ∀ name ∈ namesBefore.reverse, ¬ "custom_attribute_".toList <+: name.toList := by
  decide +kernel

/-- The columns behind those of attributes pass, so only attributes are refused. -/
theorem check_draft_filterColumns (lookup : Lookup) (routes : Routes) (store : AttributeStore)
    (settings : FilterSettings) :
    FilterDraft.check [] (draft lookup routes store.filterColumns settings).descriptors =
      FilterDraft.check namesBefore.reverse (store.filterColumns PortfolioEntryRow.domain) := by
  rw [check_draft, FilterDraft.check_append]
  cases FilterDraft.check namesBefore.reverse (store.filterColumns PortfolioEntryRow.domain) with
  | error e => rfl
  | ok =>
    refine FilterDraft.check_eq_ok_iff.mpr ⟨⟨by decide, ?_⟩, by decide +kernel⟩
    -- neither of the two names is that of an attribute or that of a column before
    have hattribute : ∀ name ∈ namesAfter, ¬ "custom_attribute_".toList <+: name.toList := by
      decide +kernel
    have hbefore : ∀ name ∈ namesAfter, name ∉ namesBefore.reverse := by decide
    intro name hname hseen
    rw [store.map_name_filterColumns, List.mem_append, List.mem_reverse] at hseen
    rcases hseen with hseen | hseen
    · obtain ⟨d, -, rfl⟩ := List.mem_map.mp hseen
      exact attributeColumnName_notMem d.key hattribute hname
    · exact hbefore name hname hseen

theorem refusesKeys_config (lookup : Lookup) (routes : Routes) (store : AttributeStore)
    (settings : FilterSettings) :
    RefusesKeys (store.definitions PortfolioEntryRow.domain)
      (config lookup routes store.filterColumns settings) := by
  have hcheck :
      FilterDraft.check [] (draft lookup routes store.filterColumns settings).descriptors =
        checkNamed (fun d => attributeColumnName d.key) .duplicateFilter AttributeStore.keyFault?
          namesBefore.reverse (store.definitions PortfolioEntryRow.domain) := by
    rw [check_draft_filterColumns, store.check_filterColumns]
  have hnames := not_isPrefix_of_mem_namesBefore
  constructor
  · simp only [config, FilterDraft.build_eq_ok_iff, ← FilterDraft.check_nil_eq_ok_iff, hcheck,
      exists_and_left, exists_eq', and_true, checkNamed_attributes_eq_ok_iff hnames,
      AttributeStore.keyFault?_eq_none_iff]
  · intro e
    simp only [config, FilterDraft.build_eq_error_iff, hcheck,
      checkNamed_attributes_eq_error_iff hnames, AttributeStore.keyFault?_eq_none_iff,
      AttributeStore.keyFault?_eq_some_iff]

end EntryFilter

/-! ## Lists -/

theorem ActorRow.fixedColumns : FixedColumns columns := ⟨by decide, rfl, by decide +kernel⟩

theorem OrgUnitRow.fixedColumns : FixedColumns columns := ⟨by decide, rfl, by decide +kernel⟩

theorem PortfolioRow.fixedColumns : FixedColumns columns := ⟨by decide, rfl, by decide +kernel⟩

theorem PortfolioEntryRow.fixedColumns : FixedColumns columns := ⟨by decide, rfl, by decide +kernel⟩

/-- **Attributes of views.** Lists of people, units, portfolios and entries are refused for repeated
keys and nothing else, and the filter of entries for repeated and for bad keys, whatever there is
to choose among, wherever links lead and whatever the settings are. -/
theorem AttributeStore.refusals_of_views (store : AttributeStore) :
    (∀ routes, RefusesRepeats (store.definitions ActorRow.domain)
        (ActorRow.table routes store.columns)) ∧
      (∀ routes, RefusesRepeats (store.definitions OrgUnitRow.domain)
        (OrgUnitRow.table routes store.columns)) ∧
      (∀ routes, RefusesRepeats (store.definitions PortfolioRow.domain)
        (PortfolioRow.table routes store.columns)) ∧
      (∀ routes, RefusesRepeats (store.definitions PortfolioEntryRow.domain)
        (PortfolioEntryRow.table routes store.columns)) ∧
      ∀ lookup routes settings, RefusesKeys (store.definitions PortfolioEntryRow.domain)
        (EntryFilter.config lookup routes store.filterColumns settings) := by
  refine ⟨fun _ => ?_, fun _ => ?_, fun _ => ?_, fun _ => ?_, fun lookup routes settings => ?_⟩
  · exact ActorRow.fixedColumns.refusesRepeats rfl rfl
  · exact OrgUnitRow.fixedColumns.refusesRepeats rfl rfl
  · exact PortfolioRow.fixedColumns.refusesRepeats rfl rfl
  · exact PortfolioEntryRow.fixedColumns.refusesRepeats rfl rfl
  · exact EntryFilter.refusesKeys_config lookup routes store settings

end DataGrid
