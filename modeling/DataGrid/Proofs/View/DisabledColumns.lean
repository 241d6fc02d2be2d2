import DataGrid.Proofs.Filter.Disabled
import DataGrid.Proofs.View.EntryColumns

/-!
# Disabled columns of portfolio entries

The columns of attributes and those that the filter of portfolio entries has of its own are made by
the steps of descriptors, in whatever form there are options for. So none of them can be sorted by
where there is nothing to filter with. Other columns are taken as they are provided.

## Main results

* `AttributeStore.disablesSort_filterColumns`: the columns of attributes
* `EntryFilter.forall_disablesSort_config_iff`: the columns of the filter of portfolio entries
* `disabledColumns_neverSorted`: disabled columns are never sorted by
* `EntryFilter.config_strayColumn`: unless a provided column is
-/

namespace DataGrid

/-- An attribute that is not filtered by cannot be sorted by. -/
theorem AttributeStore.disablesSort_filterColumns (store : AttributeStore) (domain : String) :
    ∀ d ∈ store.filterColumns domain, d.DisablesSort := by
  intro d hd
  obtain ⟨definition, -, rfl⟩ := List.mem_map.mp hd
  simp

namespace EntryFilter

variable {lookup : Lookup} {routes : Routes} {attributes : FilterProvider}
  {settings : FilterSettings} {config : FilterConfig PortfolioEntry}

theorem disablesSort_leadingColumns (lookup : Lookup) (routes : Routes)
    (settings : FilterSettings) :
    ∀ d ∈ leadingColumns lookup routes settings, d.DisablesSort := by
  simp [leadingColumns]

/-- The columns before those of attributes, in both forms of the columns for the next milestone. -/
theorem disablesSort_columnsBefore (lookup : Lookup) (routes : Routes)
    (settings : FilterSettings) :
    ∀ d ∈ columnsBefore lookup routes settings, d.DisablesSort := by
  have hnext : ∀ widget, ∀ d ∈ (withNextMilestone widget
      ⟨leadingColumns lookup routes settings, []⟩).descriptors, d.DisablesSort := by
    intro widget
    rw [withNextMilestone]
    split <;>
      simp only [FilterDraft.column, FilterDraft.postQueryColumn, List.forall_mem_append,
        List.forall_mem_singleton, nextMilestone, nextMilestoneDate,
        FilterDescriptor.disablesSort_new, and_true] <;>
      exact disablesSort_leadingColumns lookup routes settings
  rw [columnsBefore, List.forall_mem_append]
  exact ⟨hnext _, by simp⟩

/-- **Columns of the filter.** A disabled one can be sorted by just where it is that of an attribute
and was provided so. -/
theorem forall_disablesSort_config_iff
    (hconfig : EntryFilter.config lookup routes attributes settings = .ok config) :
    (∀ d ∈ config.descriptors, d.DisablesSort) ↔
      ∀ d ∈ attributes PortfolioEntryRow.domain, d.DisablesSort := by
  have hafter : ∀ d ∈ columnsAfter, d.DisablesSort := by simp [columnsAfter]
  obtain ⟨-, rfl⟩ := FilterDraft.build_eq_ok_iff.mp hconfig
  rw [descriptors_draft, List.forall_mem_append, List.forall_mem_append,
    and_iff_right (disablesSort_columnsBefore lookup routes settings), and_iff_left hafter]

end EntryFilter

/-- **Disabled columns are never sorted by.** A descriptor that is made new cannot be sorted by if
it has nothing to filter with, whatever steps are taken; otherwise the status that was set last
counts. So it is with the columns of attributes, and with all columns of the filter of portfolio
entries just where it is so with those that are provided to it. The default state of a filter of such
columns holds the disabled ones as not to be sorted by, and the filter does not start sorted by one
of them. -/
theorem disabledColumns_neverSorted :
    (∀ (name fieldPath labelKey : String) (widget : Widget)
        (steps : List FilterDescriptor.Step),
      ((FilterDescriptor.new name fieldPath labelKey widget).refineAll steps).DisablesSort ∧
        (widget ≠ .none →
          ((FilterDescriptor.new name fieldPath labelKey widget).refineAll steps).sort =
            (steps.filterMap FilterDescriptor.Step.sort?).getLastD .unsorted)) ∧
      (∀ (store : AttributeStore) (domain : String),
        ∀ d ∈ store.filterColumns domain, d.DisablesSort) ∧
      (∀ lookup routes attributes settings config,
        EntryFilter.config lookup routes attributes settings = .ok config →
          ((∀ d ∈ config.descriptors, d.DisablesSort) ↔
            ∀ d ∈ attributes PortfolioEntryRow.domain, d.DisablesSort)) ∧
      ∀ (ε : Type) (draft : FilterDraft ε) config, draft.build = .ok config →
        (∀ d ∈ config.descriptors, d.DisablesSort) → config.RestsDisabled := by
  refine ⟨fun name fieldPath labelKey widget steps => ⟨?_, fun hwidget => ?_⟩,
    AttributeStore.disablesSort_filterColumns,
    fun lookup routes attributes settings config =>
      EntryFilter.forall_disablesSort_config_iff,
    fun ε draft config hbuild hdisables => ?_⟩
  · rw [FilterDescriptor.disablesSort_refineAll]
    exact FilterDescriptor.disablesSort_new name fieldPath labelKey widget
  · have hsort : (FilterDescriptor.new name fieldPath labelKey widget).sort = .unsorted :=
      if_neg (mt Widget.isNone_iff.mp hwidget)
    rw [← hsort]
    exact FilterDescriptor.sort_refineAll hwidget steps
  · obtain ⟨⟨hnodup, -⟩, rfl⟩ := FilterDraft.build_eq_ok_iff.mp hbuild
    exact FilterConfig.restsDisabled hnodup hdisables

namespace EntryFilter

/-- A store in which entries have an owner. -/
def ownerStore : AttributeStore where
  definitions _ := [⟨"owner", "label.owner", .reference, true⟩]
  value _ _ _ := .null

/-- The filter of entries with the columns that are provided, without options for anything. -/
def filterWith (attributes : FilterProvider) : FilterConfig PortfolioEntry :=
  ⟨(draft (EntityStore.lookup {}) .standard attributes {}).descriptors,
    (draft (EntityStore.lookup {}) .standard attributes {}).postQueries⟩

/-- Owners and milestones are not sorted by at first, but names are. -/
theorem disabledColumns_ownerFilter :
    config (EntityStore.lookup {}) .standard ownerStore.filterColumns {} =
        .ok (filterWith ownerStore.filterColumns) ∧
      ((∃ d ∈ (filterWith ownerStore.filterColumns).descriptors,
          d.name = "custom_attribute_owner" ∧ d.widget = .none) ∧
        ∃ d ∈ (filterWith ownerStore.filterColumns).descriptors,
          d.name = "nextMilestone" ∧ d.widget = .none) ∧
      (filterWith ownerStore.filterColumns).RestsDisabled ∧
      (filterWith ownerStore.filterColumns).initialSort = some ("name", .ascending) ∧
      ((FilterDescriptor.new "owner" "owner.id" "label.owner" (.textField "*")).refineAll
        [.sort .descending, .mandatory, .sort .ascending, .displayed false]).sort =
          .ascending := by
  have hconfig : config (EntityStore.lookup {}) .standard ownerStore.filterColumns {} =
      .ok (filterWith ownerStore.filterColumns) :=
    FilterDraft.build_eq_ok_iff.mpr ⟨by decide +kernel, rfl⟩
  obtain ⟨hsteps, hstore, hentries, hrests⟩ := disabledColumns_neverSorted
  refine ⟨hconfig, ⟨by decide +kernel, by decide +kernel⟩, ?_, by decide +kernel, ?_⟩
  · exact hrests _ _ _ hconfig
      ((hentries _ _ _ _ _ hconfig).mpr (hstore ownerStore PortfolioEntryRow.domain))
  · exact (hsteps _ _ _ _ _).2 (by simp)

/-- A column that was made without steps: there is nothing to filter with, but it is sorted by. -/
def strayColumn : FilterDescriptor :=
  ⟨"stray", "stray", "label.stray", .none, false, false, .ascending⟩

/-- Such a column is taken as it is provided, and it is sorted by in the filter too. -/
theorem config_strayColumn :
    config (EntityStore.lookup {}) .standard (fun _ => [strayColumn]) {} =
        .ok (filterWith fun _ => [strayColumn]) ∧
      ¬ ∀ d ∈ (filterWith fun _ => [strayColumn]).descriptors,
        d.widget = .none → d.sort = .none := by
  have hconfig : config (EntityStore.lookup {}) .standard (fun _ => [strayColumn]) {} =
      .ok (filterWith fun _ => [strayColumn]) :=
    FilterDraft.build_eq_ok_iff.mpr ⟨by decide +kernel, rfl⟩
  refine ⟨hconfig, fun h => ?_⟩
  have hprovided := (forall_disablesSort_config_iff hconfig).mp h
  exact absurd (hprovided strayColumn (List.mem_singleton_self _) rfl) (by decide)

end EntryFilter

end DataGrid
