import DataGrid.Proofs.Filter.PostQuery
import DataGrid.Proofs.Filter.RoundTrip

/-!
# The selection before any choice

The default state of a filter is a selection like any other one: it is saved and loaded as it is.
It is neutral: it keeps all loaded entities and sorts by the column that the filter starts sorted
by.

## Main definitions

* `FilterConfig.IsNeutral`: a selection that only shows, hides and sorts as the filter starts

## Main results

* `Widget.canonical_defaultValue`: values of untouched widgets are read back
* `FilterConfig.read_toText_defaultState`: the default state is accepted
* `FilterConfig.sortColumn_defaultState`: it sorts by the column that starts sorted
* `FilterConfig.isNeutral_defaultState`: it is neutral
-/

namespace DataGrid

open Json
open Std (TransCmp)

/-! ## Values of untouched widgets -/

namespace Widget

theorem canonical_encodeDate? (depth : Nat) (d : Option Calendar.Date) :
    Canonical depth (encodeDate? d) := by
  cases d with
  | none => exact .null depth
  | some d => exact .string depth _

/-- **Values of untouched widgets.** They are canonical wherever an array or an object may be
opened. -/
theorem canonical_defaultValue (w : Widget) (depth : Nat) :
    Canonical (depth + 1) w.defaultValue := by
  cases w with
  | textField initial => exact .string _ initial
  | select options initial displayFields =>
    cases initial with
    | none => exact .array fun item hitem => absurd hitem List.not_mem_nil
    | some value =>
      refine .array fun item hitem => ?_
      obtain rfl := List.mem_singleton.mp hitem
      exact .string depth value
  | autocomplete endpoint displayFields => exact .null _
  | checkbox initial => exact .bool _ initial
  | dateRange start stop =>
    refine .object (List.pairwise_pair.mpr (show "from" < "to" by decide)) fun member hmember => ?_
    rcases List.mem_pair.mp hmember with rfl | rfl
    · exact canonical_encodeDate? depth start
    · exact canonical_encodeDate? depth stop
  | none => exact .null _

theorem isWhole_encodeDate? (d : Option Calendar.Date) : isWhole (encodeDate? d) := by
  cases d <;> rfl

theorem isWhole_defaultValue (w : Widget) : isWhole w.defaultValue := by
  cases w with
  | select options initial displayFields => cases initial <;> rfl
  | dateRange start stop =>
    simp [defaultValue, isWhole, haveWhole, isWhole_encodeDate?]
  | textField | autocomplete | checkbox | none => rfl

end Widget

namespace FilterConfig

variable {ε : Type} {config : FilterConfig ε}

/-! ## The default state is accepted -/

theorem exists_of_mem_defaultState {entry : String × ColumnState}
    (h : entry ∈ config.defaultState.columns) :
    ∃ d ∈ config.descriptors, d.name = entry.1 ∧ startingState d = entry.2 := by
  obtain ⟨d, hd, rfl⟩ := List.mem_map.mp (Dictionary.mem_ofList h)
  exact ⟨d, hd, rfl, rfl⟩

theorem readBack_defaultState (config : FilterConfig ε) : config.defaultState.ReadBack := by
  intro entry hentry
  obtain ⟨d, -, -, hstate⟩ := exists_of_mem_defaultState hentry
  rw [← hstate]
  exact ⟨d.widget.isWhole_defaultValue,
    ofFragment_written (d.widget.canonical_defaultValue 123) d.widget.isWhole_defaultValue⟩

/-- **Saving the default state.** Its text is accepted and read as it was. -/
theorem read_toText_defaultState (config : FilterConfig ε) :
    config.read config.defaultState.toText = .ok config.defaultState := by
  refine read_toText (Dictionary.sorted_ofList _) (readBack_defaultState config) ?_
  intro entry hentry
  obtain ⟨d, hd, hname, -⟩ := exists_of_mem_defaultState hentry
  exact ⟨d, hd, hname⟩

theorem perm_columns_defaultState (hnodup : (config.descriptors.map (·.name)).Nodup) :
    config.defaultState.columns.Perm (config.descriptors.map fun d => (d.name, startingState d)) :=
  Dictionary.perm_ofList (by rwa [List.map_map])

/-! ## The default state as a selection -/

theorem meets_defaultState (config : FilterConfig ε) (entity : ε) :
    config.Meets config.defaultState entity := by
  intro d _ column query hcolumn _ hfiltered
  -- no column is filtered at first
  obtain ⟨_, -, -, rfl⟩ := exists_of_mem_defaultState (Dictionary.mem_of_lookup hcolumn)
  cases hfiltered

theorem filter_meets_defaultState (config : FilterConfig ε) (entities : List ε) :
    (entities.filter fun entity => config.Meets config.defaultState entity) = entities :=
  List.filter_eq_self.mpr fun entity _ => decide_eq_true (meets_defaultState config entity)

/-- **Sorting at first.** The default state sorts by the column that starts sorted. -/
theorem sortColumn_defaultState (hnodup : (config.descriptors.map (·.name)).Nodup) :
    config.sortColumn config.defaultState = config.initialSort := by
  have hstate : ∀ d ∈ config.descriptors,
      config.defaultState.column? d.name = some (startingState d) := fun d hd =>
    (column?_defaultState hnodup d.name _).mpr ⟨d, hd, rfl, rfl⟩
  rw [sortColumn, initialSort]
  -- Induction on the columns, whose states are those of the whole filter.
  generalize config.descriptors = descriptors at hstate
  induction descriptors with
  | nil => rfl
  | cons d rest ih =>
    obtain ⟨hd, hrest⟩ := List.forall_mem_cons.mp hstate
    rw [List.findSome?_cons, hd, List.find?_cons]
    cases hsorted : d.sort.isSorted with
    | true => simp only [startingState, hsorted, if_true, Option.map_some]
    | false => simpa only [startingState, hsorted, Bool.false_eq_true, if_false] using ih hrest

theorem sortsFirstBy_of_initialSort (hnodup : (config.descriptors.map (·.name)).Nodup)
    {name : String} {sort : SortStatus} (h : config.initialSort = some (name, sort)) :
    ∃ d, d.name = name ∧ config.SortsFirstBy config.defaultState d sort := by
  rw [← sortColumn_defaultState hnodup] at h
  exact (sortColumn_eq_some_iff name sort).mp h

/-! ## Neutral selections -/

/-- **Neutral selection.** It has one entry for each column. It is saved and loaded as it is. It
hides the columns that are neither shown at first nor mandatory, in the order of their names. It
keeps all entities, and sorts them by the column that starts sorted if this one has a post query;
where the query compares by a total preorder, equal entities stay as they were loaded. Without such
a column all entities stay as they were loaded. -/
structure IsNeutral (config : FilterConfig ε) (state : FilterState) : Prop where
  columns : (state.columns.map Prod.fst).Perm (config.descriptors.map (·.name))
  distinct : (state.columns.map Prod.fst).Nodup
  saved : config.read state.toText = .ok state
  hidden : ∀ name, name ∈ state.hiddenColumns ↔
    ∃ d ∈ config.descriptors, d.name = name ∧ d.displayed = false ∧ d.mandatory = false
  inOrder : state.hiddenColumns.Pairwise (· < ·)
  keepsAll : ∀ entities, (config.applyPostQuery entities state).Perm entities
  sorts : ∀ name sort query, config.initialSort = some (name, sort) →
    config.postQuery? name = some query → ∀ entities,
      config.applyPostQuery entities state =
          (entities.mergeSort fun a b => (query.comparison sort a b).isLE) ∧
        (TransCmp query.compare → ∀ output,
          IsStableSort (query.comparison sort) entities output ↔
            output = config.applyPostQuery entities state)
  leaves : (∀ name sort, config.initialSort = some (name, sort) →
      config.postQuery? name = none) →
    ∀ entities, config.applyPostQuery entities state = entities

/-- **The default state is neutral.** -/
theorem isNeutral_defaultState {draft : FilterDraft ε} (h : draft.build = .ok config) :
    config.IsNeutral config.defaultState := by
  have hnodup : (config.descriptors.map (·.name)).Nodup := by
    obtain ⟨⟨hnodup, -⟩, rfl⟩ := FilterDraft.build_eq_ok_iff.mp h
    exact hnodup
  have hsorted : Dictionary.Sorted config.defaultState.columns := Dictionary.sorted_ofList _
  have hperm := (perm_columns_defaultState hnodup).map Prod.fst
  rw [List.map_map] at hperm
  constructor
  case columns => exact hperm
  case distinct => exact hsorted.nodup
  case saved => exact read_toText_defaultState _
  case hidden => exact mem_hiddenColumns_defaultState hnodup
  case inOrder => exact hsorted.pairwise_namesWhere _
  case keepsAll =>
    intro entities
    have hkept := perm_applyPostQuery config entities config.defaultState
    rwa [filter_meets_defaultState] at hkept
  case sorts =>
    intro name sort query hinitial hquery entities
    obtain ⟨d, rfl, hfirst⟩ := sortsFirstBy_of_initialSort hnodup hinitial
    have hresult := applyPostQuery_of_sorted hfirst hquery entities
    rw [filter_meets_defaultState] at hresult
    refine ⟨hresult, fun hcompare output => ?_⟩
    -- the order of a total preorder, in either direction, has one stable sort
    have := query.transCmp_comparison sort
    rw [hresult, isStableSort_iff]
  case leaves =>
    intro hnone entities
    rw [applyPostQuery_of_unsorted, filter_meets_defaultState]
    intro d sort hfirst
    -- the column that the default state sorts by is the one that starts sorted
    have hcolumn := (sortColumn_eq_some_iff d.name sort).mpr ⟨d, rfl, hfirst⟩
    rw [sortColumn_defaultState hnodup] at hcolumn
    exact hnone d.name sort hcolumn

/-! ### A filter that starts sorted -/

/-- A filter of named ranks that starts with the highest ranks first and shows neither ranks nor
dates. -/
def highestFirst : FilterDraft (String × Nat) :=
  ({} : FilterDraft (String × Nat))
    |>.postQueryColumn (rankColumn.withSort .descending) rankQuery
    |>.column (.new "added" "added.on" "label.added" (.dateRange none none))
    |>.column (FilterDescriptor.new "name" "name" "label.name" (.textField "*")).asMandatory

/-- The default state of the filter hides ranks and dates, keeps all entries, and puts the highest
ranks first. Of two entries of one rank the one that was loaded first stays first. -/
theorem isNeutral_highestFirst :
    ∃ config, highestFirst.build = .ok config ∧ config.IsNeutral config.defaultState ∧
      config.defaultState.hiddenColumns = ["added", "rank"] ∧
        config.initialSort = some ("rank", .descending) ∧
          config.applyPostQuery [("a", 2), ("b", 3), ("c", 2)] config.defaultState =
            [("b", 3), ("a", 2), ("c", 2)] := by
  have hbuild : highestFirst.build = .ok ⟨highestFirst.descriptors, highestFirst.postQueries⟩ :=
    FilterDraft.build_eq_ok_iff.mpr ⟨by decide +kernel, rfl⟩
  have hneutral := isNeutral_defaultState hbuild
  refine ⟨_, hbuild, hneutral, by decide +kernel, rfl, ?_⟩
  have hcompare : TransCmp rankQuery.compare := inferInstanceAs (TransCmp (compareOn Prod.snd))
  have := rankQuery.transCmp_comparison .descending
  exact (((hneutral.sorts "rank" .descending rankQuery rfl rfl _).2 hcompare _).mp
    (isStableSort_of_mem (by decide) (by decide) (by decide))).symm

end FilterConfig

end DataGrid
