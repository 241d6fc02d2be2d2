import DataGrid.Proofs.Attribute.Basic
import DataGrid.Proofs.Table.Basic
import DataGrid.View.EntryFilter

/-!
# Columns of portfolio entries

The filter of portfolio entries has the columns of their table, all but the roles of
stakeholders. So what the filter accepts as a selection can be hidden in the table.

## Main definitions

* `EntryFilter.columnsBefore`, `EntryFilter.columnsAfter`: the columns of the filter before and
  behind those of attributes, and their names

## Main results

* `EntryFilter.map_name_draft`: the columns of the filter
* `EntryFilter.map_name_draft_subset`: the columns of the filter are columns of the table
* `PortfolioEntryRow.withHidden_hiddenColumns`: the table hides what selections hide
-/

namespace DataGrid

/-! ## Columns of the filter -/

namespace EntryFilter

/-- The columns of the filter before those of attributes. -/
def namesBefore : List String :=
  ["governanceId", "creationDate", "isPublic", "name", "portfolioEntryType", "manager",
    "managerOrgUnit", "sponsoringUnit", "deliveryUnits", "portfolios", "stakeholders",
    "lifeCycleProcess", "portfolioEntryStatus", "lastPEReportDate", "lastMilestone",
    "lastMilestoneDate", "nextMilestone", "nextMilestoneDate", "archived", "isConcept"]

/-- The columns of the filter behind those of attributes. -/
def namesAfter : List String := ["startDate", "endDate"]

/-- The descriptors before those of attributes. -/
def columnsBefore (lookup : Lookup) (routes : Routes) (settings : FilterSettings) :
    List FilterDescriptor :=
  (withNextMilestone (milestones lookup settings)
      ⟨leadingColumns lookup routes settings, []⟩).descriptors ++
    [(FilterDescriptor.new "archived" "archived" "object.portfolio_entry.archived.label"
        (.checkbox false)).asMandatory,
      .new "isConcept" "activeLifeCycleInstance.isConcept"
        "object.portfolio_entry.is_concept.label" (.checkbox false)]

/-- The descriptors behind those of attributes. -/
def columnsAfter : List FilterDescriptor :=
  [.new "startDate" "startDate" "object.portfolio_entry.start_date.label" dates,
    .new "endDate" "endDate" "object.portfolio_entry.end_date.label" dates]

theorem descriptors_draft (lookup : Lookup) (routes : Routes) (attributes : FilterProvider)
    (settings : FilterSettings) :
    (draft lookup routes attributes settings).descriptors =
      columnsBefore lookup routes settings ++
        (attributes PortfolioEntryRow.domain ++ columnsAfter) := by
  simp [draft, FilterDraft.columnsFrom, columnsBefore, columnsAfter]

theorem map_name_columnsBefore (lookup : Lookup) (routes : Routes) (settings : FilterSettings) :
    (columnsBefore lookup routes settings).map (·.name) = namesBefore := by
  -- the columns for the next milestone are there whether or not they can be filtered by
  rw [columnsBefore, withNextMilestone]
  split <;>
    simp [FilterDraft.column, FilterDraft.postQueryColumn, nextMilestone, nextMilestoneDate,
      leadingColumns, namesBefore, FilterDescriptor.new]

/-- **Columns of the filter.** Which there are depends on nothing but the attributes. -/
theorem map_name_draft (lookup : Lookup) (routes : Routes) (attributes : FilterProvider)
    (settings : FilterSettings) :
    (draft lookup routes attributes settings).descriptors.map (·.name) =
      namesBefore ++ (attributes PortfolioEntryRow.domain).map (·.name) ++ namesAfter := by
  rw [descriptors_draft, List.map_append, List.map_append, map_name_columnsBefore,
    List.append_assoc]
  rfl

/-- Every column of the filter is a column of the table, if both have the same attributes. -/
theorem map_name_draft_subset (lookup : Lookup) (routes routes' : Routes) (store : AttributeStore)
    (settings : FilterSettings) :
    (draft lookup routes store.filterColumns settings).descriptors.map (·.name) ⊆
      (PortfolioEntryRow.draft routes' store.columns).columns.map (·.name) := by
  -- the columns that do not depend on attributes are compared one by one
  have hfixed : namesBefore ++ namesAfter ⊆ PortfolioEntryRow.columns.map (·.name) := by decide
  rw [map_name_draft, store.map_name_filterColumns, PortfolioEntryRow.draft, List.map_append,
    store.map_name_columns]
  intro name hname
  simp only [List.mem_append] at hname ⊢
  rcases hname with (hname | hname) | hname
  · exact .inl (hfixed (List.mem_append_left _ hname))
  · exact .inr hname
  · exact .inl (hfixed (List.mem_append_right _ hname))

end EntryFilter

/-! ## Hidden columns -/

namespace PortfolioEntryRow

/-- What is hidden at first are columns of the list, and none of attributes. -/
theorem hiddenAtFirst_subset (hideStakeholderTypes hideManager : Bool) :
    hiddenAtFirst hideStakeholderTypes hideManager ⊆ columns.map (·.name) := by
  cases hideStakeholderTypes <;> cases hideManager <;> decide

theorem attributeColumnName_notMem_hiddenAtFirst (key : String)
    (hideStakeholderTypes hideManager : Bool) :
    attributeColumnName key ∉ hiddenAtFirst hideStakeholderTypes hideManager := by
  refine attributeColumnName_notMem key ?_
  cases hideStakeholderTypes <;> cases hideManager <;> decide

variable {lookup : Lookup} {routes routes' : Routes} {settings : FilterSettings}
  {store : AttributeStore} {grid : Table PortfolioEntryRow} {config : FilterConfig PortfolioEntry}

/-- What an accepted selection hides are columns of the table. -/
theorem hiddenColumns_subset (htable : table routes store.columns = .ok grid)
    (hconfig : EntryFilter.config lookup routes' store.filterColumns settings = .ok config)
    {text : String} {state : FilterState} (hread : config.read text = .ok state) :
    state.hiddenColumns ⊆ grid.columns.map (·.name) := by
  obtain ⟨-, rfl⟩ := TableDraft.build_eq_ok_iff.mp htable
  obtain ⟨-, rfl⟩ := FilterDraft.build_eq_ok_iff.mp hconfig
  obtain ⟨-, hnames⟩ := FilterConfig.read_eq_ok_iff.mp hread
  intro name hname
  obtain ⟨column, hcolumn, -⟩ :=
    (FilterState.mem_hiddenColumns (FilterConfig.sorted_of_read hread) name).mp hname
  obtain ⟨d, hd, rfl⟩ := hnames _ (Dictionary.mem_of_lookup hcolumn)
  exact EntryFilter.map_name_draft_subset lookup routes' routes store settings
    (List.mem_map_of_mem hd)

theorem hiddenAtFirst_subset_columns (htable : table routes store.columns = .ok grid)
    (hideStakeholderTypes hideManager : Bool) :
    hiddenAtFirst hideStakeholderTypes hideManager ⊆ grid.columns.map (·.name) := by
  obtain ⟨-, rfl⟩ := TableDraft.build_eq_ok_iff.mp htable
  refine List.Subset.trans (hiddenAtFirst_subset hideStakeholderTypes hideManager) ?_
  exact List.map_append ▸ List.subset_append_left _ _

theorem attributeColumnName_mem_columns (htable : table routes store.columns = .ok grid)
    {d : AttributeDefinition} (hd : d ∈ store.definitions domain) :
    attributeColumnName d.key ∈ grid.columns.map (·.name) := by
  obtain ⟨-, rfl⟩ := TableDraft.build_eq_ok_iff.mp htable
  have hname : attributeColumnName d.key ∈
      (store.columns domain : List (Column PortfolioEntryRow)).map (·.name) := by
    rw [store.map_name_columns]
    exact List.mem_map_of_mem hd
  exact List.map_append ▸ List.mem_append_right _ hname

/-- **Selections and tables agree.** The table can hide what an accepted selection hides, and
then hides just the columns that are not displayed in it. It can also hide what is hidden at
first, and then shows every attribute. -/
theorem withHidden_hiddenColumns (htable : table routes store.columns = .ok grid)
    (hconfig : EntryFilter.config lookup routes' store.filterColumns settings = .ok config) :
    (∀ text state, config.read text = .ok state → ∃ shown,
        grid.withHidden state.hiddenColumns = .ok shown ∧
          shown.columns.map (·.name) = grid.columns.map (·.name) ∧
            ∀ c ∈ shown.columns, c.hidden ↔
              ∃ column, state.column? c.name = some column ∧ column.displayed = false) ∧
      ∀ hideStakeholderTypes hideManager, ∃ shown,
        grid.withHidden (hiddenAtFirst hideStakeholderTypes hideManager) = .ok shown ∧
          shown.columns.map (·.name) = grid.columns.map (·.name) ∧
            (∀ c ∈ shown.columns,
              c.hidden ↔ c.name ∈ hiddenAtFirst hideStakeholderTypes hideManager) ∧
              ∀ d ∈ store.definitions domain,
                attributeColumnName d.key ∈ shown.visibleColumns.map (·.name) := by
  refine ⟨fun text state hread => ?_, fun hideStakeholderTypes hideManager => ?_⟩
  · -- what a selection hides are columns of the filter, and so of the table
    have hnames := hiddenColumns_subset htable hconfig hread
    refine ⟨_, Table.withHidden_eq_ok_iff.mpr ⟨fun _ h => hnames h, rfl⟩,
      grid.map_name_hide _, fun c hc => ?_⟩
    rw [Table.hidden_iff_of_mem_hide hc,
      FilterState.mem_hiddenColumns (FilterConfig.sorted_of_read hread)]
  · have hnames := hiddenAtFirst_subset_columns htable hideStakeholderTypes hideManager
    refine ⟨_, Table.withHidden_eq_ok_iff.mpr ⟨fun _ h => hnames h, rfl⟩,
      grid.map_name_hide _, fun c hc => Table.hidden_iff_of_mem_hide hc, fun d hd => ?_⟩
    -- an attribute has a column, whose name is none of those hidden at first
    have hname := attributeColumnName_mem_columns htable hd
    rw [← grid.map_name_hide (hiddenAtFirst hideStakeholderTypes hideManager)] at hname
    obtain ⟨c, hc, hcname⟩ := List.mem_map.mp hname
    refine List.mem_map.mpr ⟨c, List.mem_filter.mpr ⟨hc, ?_⟩, hcname⟩
    rw [Bool.not_eq_true', Bool.eq_false_iff]
    intro hhidden
    have hmem := (Table.hidden_iff_of_mem_hide hc).mp hhidden
    rw [hcname] at hmem
    exact attributeColumnName_notMem_hiddenAtFirst d.key _ _ hmem

/-- A store in which entries have a risk. -/
def riskStore : AttributeStore where
  definitions _ := [⟨"risk", "label.risk", .text, true⟩]
  value _ _ _ := .null

/-- The list of entries with their risks. -/
def riskTable : Table PortfolioEntryRow := (draft .standard riskStore.columns).toTable

/-- The filter of entries with their risks. -/
def riskFilter : FilterConfig PortfolioEntry :=
  ⟨(EntryFilter.draft (EntityStore.lookup {}) .standard riskStore.filterColumns {}).descriptors,
    (EntryFilter.draft (EntityStore.lookup {}) .standard riskStore.filterColumns {}).postQueries⟩

/-- A selection can hide the risks of entries, and at first they are shown. -/
theorem withHidden_riskTable :
    table .standard riskStore.columns = .ok riskTable ∧
      EntryFilter.config (EntityStore.lookup {}) .standard riskStore.filterColumns {} =
          .ok riskFilter ∧
        riskFilter.read (FilterState.hidingOnly "custom_attribute_risk").toText =
            .ok (.hidingOnly "custom_attribute_risk") ∧
          (∃ shown, riskTable.withHidden ["custom_attribute_risk"] = .ok shown ∧
            ∀ c ∈ shown.columns, c.hidden ↔ c.name = "custom_attribute_risk") ∧
          ∃ shown, riskTable.withHidden (hiddenAtFirst true true) = .ok shown ∧
            "custom_attribute_risk" ∈ shown.visibleColumns.map (·.name) := by
  have htable : table .standard riskStore.columns = .ok riskTable :=
    TableDraft.build_eq_ok_iff.mpr ⟨by decide +kernel, rfl⟩
  have hconfig : EntryFilter.config (EntityStore.lookup {}) .standard riskStore.filterColumns {} =
      .ok riskFilter :=
    FilterDraft.build_eq_ok_iff.mpr ⟨by decide +kernel, rfl⟩
  obtain ⟨d, hd, hname⟩ : ∃ d ∈ riskFilter.descriptors, d.name = "custom_attribute_risk" :=
    List.mem_map.mp (by decide)
  have hread := FilterConfig.read_hidingOnly hd
  rw [hname] at hread
  obtain ⟨hselected, hfirst⟩ := withHidden_hiddenColumns htable hconfig
  refine ⟨htable, hconfig, hread, ?_, ?_⟩
  · obtain ⟨shown, hshown, -, hhidden⟩ := hselected _ _ hread
    refine ⟨shown, hshown, fun c hc => (hhidden c hc).trans ?_⟩
    simp [FilterState.column?, FilterState.hidingOnly, Dictionary.lookup_cons]
  · obtain ⟨shown, hshown, -, -, hattributes⟩ := hfirst true true
    exact ⟨shown, hshown, hattributes _ (List.mem_singleton_self _)⟩

end PortfolioEntryRow

end DataGrid
