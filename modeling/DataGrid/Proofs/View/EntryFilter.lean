import DataGrid.Proofs.View.EntryColumns

/-!
# Option sets and the filter of portfolio entries

Option sets that are too small disable columns of the filter and take none away. So a selection
that was stored for one filter is accepted by every other one with the same attributes.

## Main definitions

* `FilterConfig.DisabledIff`: when a column cannot be filtered or sorted by
* `EntryFilter.selectColumns`: the columns that are chosen from, with their option sets
* `EntryFilter.OwnColumn`: what the columns that are no attributes have to filter with
* `EntryFilter.Degrades`: what too small option sets do to a filter

## Main results

* `EntryFilter.check_draft`: the check of a filter is that of its attributes
* `EntryFilter.degrades_of_config`: which columns are disabled
* `EntryFilter.config_sameColumns`: lookups, routes and settings change no column's name
-/

namespace DataGrid

/-- **Disabled column.** The column with a name is there. It has nothing to filter with just where
a condition holds, and just there it cannot be sorted by. -/
def FilterConfig.DisabledIff {ε : Type} (config : FilterConfig ε) (name : String)
    (condition : Prop) : Prop :=
  ∃ d, config.descriptor? name = some d ∧
    (d.widget = .none ↔ condition) ∧ (d.sort = .none ↔ condition)

namespace EntryFilter

variable {lookup lookup' : Lookup} {routes routes' : Routes} {attributes : FilterProvider}
  {settings settings' : FilterSettings} {d : FilterDescriptor} {set : OptionSet}

/-! ## The check -/

theorem all_isFieldPath_leadingColumns (lookup : Lookup) (routes : Routes)
    (settings : FilterSettings) :
    ((leadingColumns lookup routes settings).map (·.fieldPath)).all isFieldPath := by
  simp only [leadingColumns, FilterDescriptor.new, FilterDescriptor.withDisplayed,
    FilterDescriptor.fieldPath_withSort, List.map_cons, List.map_nil]
  decide +kernel

/-- The columns before those of attributes have good paths, in both forms of the columns for the
next milestone. -/
theorem isFieldPath_of_mem_columnsBefore (hd : d ∈ columnsBefore lookup routes settings) :
    isFieldPath d.fieldPath := by
  have hpaths : ((columnsBefore lookup routes settings).map (·.fieldPath)).all isFieldPath := by
    rw [columnsBefore, withNextMilestone]
    split <;>
      simp only [FilterDraft.column, FilterDraft.postQueryColumn, List.map_append, List.all_append,
        all_isFieldPath_leadingColumns, Bool.true_and, nextMilestone, nextMilestoneDate,
        FilterDescriptor.new, FilterDescriptor.asMandatory, List.map_cons, List.map_nil] <;>
      decide +kernel
  exact List.all_eq_true.mp hpaths _ (List.mem_map_of_mem hd)

/-- **Check.** The columns before those of attributes pass, so the check finds what is wrong with
attributes. -/
theorem check_draft (lookup : Lookup) (routes : Routes) (attributes : FilterProvider)
    (settings : FilterSettings) :
    FilterDraft.check [] (draft lookup routes attributes settings).descriptors =
      FilterDraft.check namesBefore.reverse
        (attributes PortfolioEntryRow.domain ++ columnsAfter) := by
  have hbefore : FilterDraft.check [] (columnsBefore lookup routes settings) = .ok () := by
    rw [FilterDraft.check_eq_ok_iff, map_name_columnsBefore]
    exact ⟨⟨by decide, List.disjoint_nil_right _⟩, fun _ => isFieldPath_of_mem_columnsBefore⟩
  rw [descriptors_draft, FilterDraft.check_append, hbefore, map_name_columnsBefore]
  rw [List.append_nil]
  rfl

/-! ## What there is to filter with -/

/-- Whether a set has too few options to choose among. -/
def TooFew (lookup : Lookup) (settings : FilterSettings) (set : OptionSet) : Prop :=
  (lookup.options set).length < settings.minSelectOptions

/-- The columns whose values are chosen among the options of a set. -/
def selectColumns : List (String × OptionSet) :=
  [("portfolioEntryType", .portfolioEntryTypes), ("managerOrgUnit", .orgUnits),
    ("sponsoringUnit", .orgUnits), ("deliveryUnits", .orgUnits), ("portfolios", .portfolios),
    ("lifeCycleProcess", .lifeCycleProcesses), ("portfolioEntryStatus", .reportStatusTypes),
    ("lastMilestone", .lifeCycleMilestones), ("nextMilestone", .lifeCycleMilestones)]

/-- The columns for milestones and their dates. -/
def milestoneColumns : List String :=
  ["lastMilestone", "lastMilestoneDate", "nextMilestone", "nextMilestoneDate"]

/-- The columns that are known only after loading. -/
def nextMilestoneColumns : List String := ["nextMilestone", "nextMilestoneDate"]

/-- The widget for the dates of milestones. -/
def milestoneDates (lookup : Lookup) (settings : FilterSettings) : Widget :=
  if (milestones lookup settings).isNone then .none else dates

theorem select_eq_none_iff {display : String} :
    select lookup settings set display = .none ↔ TooFew lookup settings set := by
  rw [select, Widget.selectOrNone, List.length_map]
  split
  · rename_i hfew
    exact iff_of_true rfl hfew
  · rename_i henough
    exact iff_of_false (fun heq => nomatch heq) henough

theorem options_of_select_eq {display : String} {options : List SelectOption}
    {initial : Option String} {displayFields : List String}
    (h : select lookup settings set display = .select options initial displayFields) :
    options = (lookup.options set).map (·.option) := by
  rw [select, Widget.selectOrNone] at h
  split at h
  · cases h
  · cases h
    rfl

theorem isNone_milestones_iff :
    (milestones lookup settings).isNone ↔ TooFew lookup settings .lifeCycleMilestones :=
  Widget.isNone_iff.trans select_eq_none_iff

theorem milestoneDates_eq_none_iff :
    milestoneDates lookup settings = .none ↔ TooFew lookup settings .lifeCycleMilestones := by
  rw [milestoneDates, ← isNone_milestones_iff]
  split
  · rename_i hnone
    exact iff_of_true rfl hnone
  · rename_i hsome
    exact iff_of_false (fun heq => nomatch heq) hsome

/-- **Own columns.** A column that is no attribute's offers a choice among the options of a set, or
dates of milestones, or what does not depend on option sets. -/
inductive OwnColumn (lookup : Lookup) (settings : FilterSettings) (d : FilterDescriptor) : Prop
  | choice {set : OptionSet} {display : String} (hname : (d.name, set) ∈ selectColumns)
      (hwidget : d.widget = select lookup settings set display)
      (hsort : d.sort = .none ↔ d.widget = .none)
  | milestoneDate (hname : d.name ∈ ["lastMilestoneDate", "nextMilestoneDate"])
      (hwidget : d.widget = milestoneDates lookup settings)
      (hsort : d.sort = .none ↔ d.widget = .none)
  | other (hname : d.name ∉ selectColumns.map Prod.fst ++ milestoneColumns)
      (hwidget : ∀ options initial displayFields, d.widget ≠ .select options initial displayFields)

namespace OwnColumn

theorem choice_new {name display : String} (fieldPath labelKey : String) (displayed : Bool)
    (hname : (name, set) ∈ selectColumns) :
    OwnColumn lookup settings ((FilterDescriptor.new name fieldPath labelKey
      (select lookup settings set display)).withDisplayed displayed) :=
  .choice hname rfl (by simp)

theorem milestoneDate_new {name : String} (fieldPath labelKey : String)
    (hname : name ∈ ["lastMilestoneDate", "nextMilestoneDate"]) :
    OwnColumn lookup settings
      (FilterDescriptor.new name fieldPath labelKey (milestoneDates lookup settings)) :=
  .milestoneDate hname rfl (by simp)

theorem of_mem_leadingColumns (hd : d ∈ leadingColumns lookup routes settings) :
    OwnColumn lookup settings d := by
  simp only [leadingColumns, List.mem_cons, List.not_mem_nil, or_false] at hd
  rcases hd with rfl | rfl | rfl | rfl | rfl | rfl | rfl | rfl | rfl | rfl | rfl | rfl | rfl | rfl |
    rfl | rfl
  any_goals exact choice_new _ _ true (by decide)
  any_goals exact choice_new _ _ false (by decide)
  any_goals exact milestoneDate_new _ _ (by decide)
  -- the columns that are left offer texts, dates, flags and searches
  all_goals
    refine .other ?_ ?_
    · simp [selectColumns, milestoneColumns]
    · simp [text, dates]

/-- The columns for the next milestone are covered in both their forms. -/
theorem of_mem_withNextMilestone
    (hd : d ∈ (withNextMilestone (milestones lookup settings)
      ⟨leadingColumns lookup routes settings, []⟩).descriptors) :
    OwnColumn lookup settings d := by
  rw [withNextMilestone] at hd
  split at hd
  · -- both are disabled, and so is what they would offer otherwise
    rename_i hnone
    have hchoice : .none = select lookup settings .lifeCycleMilestones
        "lifeCycleMilestone.shortName" :=
      (Widget.isNone_iff.mp hnone).symm
    have hdates : .none = milestoneDates lookup settings := (if_pos hnone).symm
    simp only [FilterDraft.column, List.mem_append, List.mem_singleton] at hd
    rcases hd with (hd | rfl) | rfl
    · exact of_mem_leadingColumns hd
    · rw [nextMilestone, hchoice]
      exact choice_new _ _ false (by decide)
    · rw [nextMilestoneDate, hdates]
      exact milestoneDate_new _ _ (by decide)
  · rename_i hsome
    have hdates : dates = milestoneDates lookup settings := (if_neg hsome).symm
    simp only [FilterDraft.postQueryColumn, List.mem_append, List.mem_singleton] at hd
    rcases hd with (hd | rfl) | rfl
    · exact of_mem_leadingColumns hd
    · exact choice_new _ _ false (by decide)
    · rw [nextMilestoneDate, hdates]
      exact milestoneDate_new _ _ (by decide)

/-- Every column of the filter that is no attribute's is covered. -/
theorem of_mem_columns (hd : d ∈ columnsBefore lookup routes settings ++ columnsAfter) :
    OwnColumn lookup settings d := by
  simp only [columnsBefore, columnsAfter, List.mem_append, List.mem_cons, List.not_mem_nil,
    or_false] at hd
  rcases hd with (hd | rfl | rfl) | rfl | rfl
  · exact of_mem_withNextMilestone hd
  all_goals
    refine .other ?_ ?_
    · simp [selectColumns, milestoneColumns]
    · simp [dates]

/-- A choice among options is disabled just where its set has too few of them. -/
theorem disabled_of_select (h : OwnColumn lookup settings d)
    (hset : (d.name, set) ∈ selectColumns) :
    (d.widget = .none ↔ TooFew lookup settings set) ∧
      (d.sort = .none ↔ TooFew lookup settings set) := by
  cases h with
  | choice hname hwidget hsort =>
    -- no name stands for two option sets
    have hunique : ∀ p ∈ selectColumns, ∀ q ∈ selectColumns, p.1 = q.1 → p.2 = q.2 := by decide
    obtain rfl := hunique _ hname _ hset rfl
    have hdisabled := hwidget ▸ select_eq_none_iff
    exact ⟨hdisabled, hsort.trans hdisabled⟩
  | milestoneDate hname =>
    have hdates : ∀ name ∈ ["lastMilestoneDate", "nextMilestoneDate"],
        name ∉ selectColumns.map Prod.fst := by decide
    exact absurd (List.mem_map_of_mem hset) (hdates _ hname)
  | other hname => exact absurd (List.mem_append_left _ (List.mem_map_of_mem hset)) hname

/-- All columns for milestones are disabled just where there are too few milestones. -/
theorem disabled_of_milestone (h : OwnColumn lookup settings d)
    (hname : d.name ∈ milestoneColumns) :
    (d.widget = .none ↔ TooFew lookup settings .lifeCycleMilestones) ∧
      (d.sort = .none ↔ TooFew lookup settings .lifeCycleMilestones) := by
  cases h with
  | choice hset hwidget hsort =>
    have hsets : ∀ p ∈ selectColumns, p.1 ∈ milestoneColumns → p.2 = .lifeCycleMilestones := by
      decide
    obtain rfl := hsets _ hset hname
    have hdisabled := hwidget ▸ select_eq_none_iff
    exact ⟨hdisabled, hsort.trans hdisabled⟩
  | milestoneDate _ hwidget hsort =>
    have hdisabled := hwidget ▸ milestoneDates_eq_none_iff
    exact ⟨hdisabled, hsort.trans hdisabled⟩
  | other hother => exact absurd (List.mem_append_right _ hname) hother

/-- What is chosen from are the options of the column's set. -/
theorem options_eq (h : OwnColumn lookup settings d) {options : List SelectOption}
    {initial : Option String} {displayFields : List String}
    (hselect : d.widget = .select options initial displayFields) :
    ∃ set, (d.name, set) ∈ selectColumns ∧ options = (lookup.options set).map (·.option) := by
  cases h with
  | choice hname hwidget => exact ⟨_, hname, options_of_select_eq (hwidget.symm.trans hselect)⟩
  | milestoneDate _ hwidget =>
    rw [hwidget, milestoneDates] at hselect
    split at hselect <;> cases hselect
  | other _ hwidget => exact absurd hselect (hwidget _ _ _)

end OwnColumn

/-! ## Filters with few options -/

/-- **Degradation.** What too small option sets do to a filter: choices without enough options are
disabled, the columns for milestones together, and those for the next milestone bring post queries
only with enough milestones. No other column of the filter's own offers a choice. -/
structure Degrades (lookup : Lookup) (settings : FilterSettings) (attributes : FilterProvider)
    (config : FilterConfig PortfolioEntry) : Prop where
  selects : ∀ column ∈ selectColumns,
    config.DisabledIff column.1 (TooFew lookup settings column.2)
  choices : ∀ d ∈ config.descriptors, d ∉ attributes PortfolioEntryRow.domain →
    ∀ options initial displayFields, d.widget = .select options initial displayFields →
      ∃ set, (d.name, set) ∈ selectColumns ∧ options = (lookup.options set).map (·.option)
  milestones : ∀ name ∈ milestoneColumns,
    config.DisabledIff name (TooFew lookup settings .lifeCycleMilestones)
  postQueries : ∀ name, config.hasPostQuery name ↔
    name ∈ nextMilestoneColumns ∧ ¬ TooFew lookup settings .lifeCycleMilestones

variable {c : FilterConfig PortfolioEntry}

/-- A column of the filter's own is found by its name. -/
theorem exists_ownColumn
    (hconfig : config lookup routes attributes settings = .ok c) {name : String}
    (hname : name ∈ namesBefore) :
    ∃ d, c.descriptor? name = some d ∧ d.name = name ∧ OwnColumn lookup settings d := by
  obtain ⟨⟨hnodup, -⟩, rfl⟩ := FilterDraft.build_eq_ok_iff.mp hconfig
  rw [← map_name_columnsBefore lookup routes settings] at hname
  obtain ⟨d, hd, rfl⟩ := List.mem_map.mp hname
  refine ⟨d, FilterConfig.descriptor?_of_mem hnodup ?_, rfl, ?_⟩
  · rw [descriptors_draft]
    exact List.mem_append_left _ hd
  · exact .of_mem_columns (List.mem_append_left _ hd)

theorem hasPostQuery_iff
    (hconfig : config lookup routes attributes settings = .ok c) (name : String) :
    c.hasPostQuery name ↔
      name ∈ nextMilestoneColumns ∧ ¬ TooFew lookup settings .lifeCycleMilestones := by
  obtain ⟨-, rfl⟩ := FilterDraft.build_eq_ok_iff.mp hconfig
  rw [← isNone_milestones_iff, FilterConfig.hasPostQuery, FilterConfig.postQuery?, draft,
    FilterDraft.columnsFrom, withNextMilestone]
  split
  · rename_i hnone
    simp [FilterDraft.column, hnone]
  · rename_i hsome
    simp only [FilterDraft.postQueryColumn, nextMilestone, nextMilestoneDate,
      FilterDescriptor.name_new, List.nil_append, List.cons_append, List.lookup_cons,
      List.lookup_nil]
    by_cases hnext : name = "nextMilestone"
    · simp [hnext, hsome, nextMilestoneColumns]
    by_cases hdate : name = "nextMilestoneDate"
    · simp [hdate, hsome, nextMilestoneColumns]
    · simp [beq_eq_false_iff_ne.mpr hnext, beq_eq_false_iff_ne.mpr hdate, hnext, hdate,
        nextMilestoneColumns]

theorem degrades_of_config
    (hconfig : config lookup routes attributes settings = .ok c) :
    Degrades lookup settings attributes c := by
  refine ⟨fun column hcolumn => ?_, fun d hd hattribute => ?_, fun name hname => ?_,
    hasPostQuery_iff hconfig⟩
  · have hbefore : ∀ p ∈ selectColumns, p.1 ∈ namesBefore := by decide
    obtain ⟨d, hd, hname, hown⟩ := exists_ownColumn hconfig (hbefore column hcolumn)
    exact ⟨d, hd, hown.disabled_of_select (hname ▸ hcolumn)⟩
  · intro options initial displayFields
    obtain ⟨-, rfl⟩ := FilterDraft.build_eq_ok_iff.mp hconfig
    rw [descriptors_draft, List.mem_append, List.mem_append] at hd
    have hown : d ∈ columnsBefore lookup routes settings ++ columnsAfter := by
      rcases hd with hd | hd | hd
      · exact List.mem_append_left _ hd
      · exact absurd hd hattribute
      · exact List.mem_append_right _ hd
    exact OwnColumn.options_eq (.of_mem_columns hown)
  · have hbefore : ∀ name ∈ milestoneColumns, name ∈ namesBefore := by decide
    obtain ⟨d, hd, rfl, hown⟩ := exists_ownColumn hconfig (hbefore name hname)
    exact ⟨d, hd, hown.disabled_of_milestone hname⟩

/-- **Same columns.** Filters with the same attributes are refused for the same reason, or have the
same columns and accept the same texts as the same selections, whatever there is to choose among,
wherever links lead and whatever the settings are. -/
theorem config_sameColumns (attributes : FilterProvider) (lookup lookup' : Lookup)
    (routes routes' : Routes) (settings settings' : FilterSettings) :
    (∃ e, config lookup routes attributes settings = .error e ∧
        config lookup' routes' attributes settings' = .error e) ∨
      ∃ c c', config lookup routes attributes settings = .ok c ∧
        config lookup' routes' attributes settings' = .ok c' ∧
          c.descriptors.map (·.name) = c'.descriptors.map (·.name) ∧
            (∀ text, c.read text = c'.read text) ∧
              Degrades lookup settings attributes c ∧ Degrades lookup' settings' attributes c' := by
  -- both filters are checked alike, as their checks are those of the attributes
  have hsame : FilterDraft.check [] (draft lookup routes attributes settings).descriptors =
      FilterDraft.check [] (draft lookup' routes' attributes settings').descriptors := by
    rw [check_draft, check_draft]
  cases hcheck : FilterDraft.check [] (draft lookup routes attributes settings).descriptors with
  | error e =>
    exact .inl ⟨e, FilterDraft.build_eq_error_iff.mpr hcheck,
      FilterDraft.build_eq_error_iff.mpr (hsame ▸ hcheck)⟩
  | ok =>
    have hconfig : config lookup routes attributes settings = .ok _ :=
      FilterDraft.build_eq_ok_iff.mpr ⟨FilterDraft.check_nil_eq_ok_iff.mp hcheck, rfl⟩
    have hconfig' : config lookup' routes' attributes settings' = .ok _ :=
      FilterDraft.build_eq_ok_iff.mpr ⟨FilterDraft.check_nil_eq_ok_iff.mp (hsame ▸ hcheck), rfl⟩
    have hnames : (draft lookup routes attributes settings).descriptors.map (·.name) =
        (draft lookup' routes' attributes settings').descriptors.map (·.name) := by
      rw [map_name_draft, map_name_draft]
    exact .inr ⟨_, _, hconfig, hconfig', hnames, FilterConfig.read_congr hnames,
      degrades_of_config hconfig, degrades_of_config hconfig'⟩

end EntryFilter

end DataGrid
