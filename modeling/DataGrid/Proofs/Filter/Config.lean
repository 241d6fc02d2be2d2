import DataGrid.Filter.Config
import DataGrid.Proofs.Filter.State
import DataGrid.Proofs.NamedCheck
import Mathlib.Data.List.Basic

/-!
# Checked filters and their selections

A filter that passes the check has one column of each name. The selections that it accepts are
the states that are read and name none but its columns.

## Main definitions

* `FilterDraft.descriptorFault?`: what is wrong with a descriptor

## Main results

* `FilterDraft.check_eq_ok_iff`, `FilterDraft.build_eq_ok_iff`: which drafts pass the check
* `FilterDraft.build_eq_error_iff`: why a draft is refused
* `FilterConfig.read_eq_ok_iff`: which texts are accepted
* `FilterConfig.read_congr`: filters with the same names of columns accept the same texts
* `FilterConfig.read_toText`: a written state of the filter's columns is accepted
* `FilterConfig.read_hidingOnly`: every column is hidden by an accepted text
* `FilterConfig.column?_defaultState`: what the default state holds for a column
-/

namespace DataGrid

open Json

variable {ε : Type}

/-! ## Descriptors -/

@[simp]
theorem Widget.isNone_iff {w : Widget} : w.isNone ↔ w = .none := by
  cases w <;> simp [Widget.isNone]

namespace FilterDescriptor

@[simp]
theorem name_new (name fieldPath labelKey : String) (widget : Widget) :
    (new name fieldPath labelKey widget).name = name := rfl

@[simp]
theorem fieldPath_new (name fieldPath labelKey : String) (widget : Widget) :
    (new name fieldPath labelKey widget).fieldPath = fieldPath := rfl

@[simp]
theorem widget_new (name fieldPath labelKey : String) (widget : Widget) :
    (new name fieldPath labelKey widget).widget = widget := rfl

/-- A new column can be sorted by if it can be filtered by. -/
@[simp]
theorem sort_new_eq_none_iff (name fieldPath labelKey : String) (widget : Widget) :
    (new name fieldPath labelKey widget).sort = .none ↔ widget = .none := by
  show (if widget.isNone then SortStatus.none else .unsorted) = .none ↔ widget = .none
  cases widget <;> simp [Widget.isNone]

@[simp]
theorem name_withDisplayed (d : FilterDescriptor) (displayed : Bool) :
    (d.withDisplayed displayed).name = d.name := rfl

@[simp]
theorem widget_withDisplayed (d : FilterDescriptor) (displayed : Bool) :
    (d.withDisplayed displayed).widget = d.widget := rfl

@[simp]
theorem sort_withDisplayed (d : FilterDescriptor) (displayed : Bool) :
    (d.withDisplayed displayed).sort = d.sort := rfl

@[simp]
theorem name_asMandatory (d : FilterDescriptor) : d.asMandatory.name = d.name := rfl

@[simp]
theorem widget_asMandatory (d : FilterDescriptor) : d.asMandatory.widget = d.widget := rfl

@[simp]
theorem name_withSort (d : FilterDescriptor) (sort : SortStatus) :
    (d.withSort sort).name = d.name := by
  rw [withSort]
  split <;> rfl

@[simp]
theorem fieldPath_withSort (d : FilterDescriptor) (sort : SortStatus) :
    (d.withSort sort).fieldPath = d.fieldPath := by
  rw [withSort]
  split <;> rfl

@[simp]
theorem widget_withSort (d : FilterDescriptor) (sort : SortStatus) :
    (d.withSort sort).widget = d.widget := by
  rw [withSort]
  split <;> rfl

end FilterDescriptor

/-! ## The check -/

namespace FilterDraft

/-- **Fault of a descriptor.** Its path is bad. -/
def descriptorFault? (d : FilterDescriptor) : Option FilterError :=
  if isFieldPath d.fieldPath then none else some (.invalidFieldPath d.fieldPath d.name)

theorem check_eq_checkNamed (seen : List String) (descriptors : List FilterDescriptor) :
    check seen descriptors =
      checkNamed (·.name) .duplicateFilter descriptorFault? seen descriptors := by
  induction descriptors generalizing seen with
  | nil => rfl
  | cons d rest ih =>
    rw [check, checkNamed, descriptorFault?]
    by_cases hseen : d.name ∈ seen
    · simp [hseen]
    by_cases hpath : isFieldPath d.fieldPath <;> simp [hseen, hpath, ih]

/-- Descriptors pass the check if their names are new and all different, and their paths
good. -/
theorem check_eq_ok_iff {seen : List String} {descriptors : List FilterDescriptor} :
    check seen descriptors = .ok () ↔
      ((descriptors.map (·.name)).Nodup ∧ (descriptors.map (·.name)).Disjoint seen) ∧
        ∀ d ∈ descriptors, isFieldPath d.fieldPath := by
  rw [check_eq_checkNamed, checkNamed_eq_ok_iff]
  simp [descriptorFault?]

theorem check_append (seen : List String) (ds es : List FilterDescriptor) :
    check seen (ds ++ es) =
      (check seen ds).bind fun () => check ((ds.map (·.name)).reverse ++ seen) es := by
  simp only [check_eq_checkNamed, checkNamed_append]

theorem check_nil_eq_ok_iff {descriptors : List FilterDescriptor} :
    check [] descriptors = .ok () ↔
      (descriptors.map (·.name)).Nodup ∧ ∀ d ∈ descriptors, isFieldPath d.fieldPath := by
  rw [check_eq_ok_iff, and_iff_left (List.disjoint_nil_right _)]

/-- **Building.** A draft is built if its names are all different and its paths good. -/
theorem build_eq_ok_iff {draft : FilterDraft ε} {config : FilterConfig ε} :
    draft.build = .ok config ↔
      ((draft.descriptors.map (·.name)).Nodup ∧
        ∀ d ∈ draft.descriptors, isFieldPath d.fieldPath) ∧
      ⟨draft.descriptors, draft.postQueries⟩ = config := by
  rw [← check_nil_eq_ok_iff, build]
  cases check [] draft.descriptors with
  | ok => simp [bind, Except.bind, pure, Except.pure]
  | error e => simp [bind, Except.bind]

/-- **Refusal.** A draft is refused for the first fault of its descriptors. -/
theorem build_eq_error_iff {draft : FilterDraft ε} {e : FilterError} :
    draft.build = .error e ↔ check [] draft.descriptors = .error e := by
  rw [build]
  cases check [] draft.descriptors with
  | ok => simp [bind, Except.bind, pure, Except.pure]
  | error fault => simp [bind, Except.bind]

end FilterDraft

namespace FilterConfig

variable {config : FilterConfig ε} {state : FilterState}

/-! ## Selections that are read -/

theorem descriptor?_of_mem (hnodup : (config.descriptors.map (·.name)).Nodup)
    {d : FilterDescriptor} (hd : d ∈ config.descriptors) :
    config.descriptor? d.name = some d :=
  find?_name_of_mem hnodup hd

theorem descriptor?_isNone_iff (name : String) :
    (config.descriptor? name).isNone ↔ ∀ d ∈ config.descriptors, d.name ≠ name := by
  simp [descriptor?]

/-- **Accepted texts.** A text is accepted if it is the form of a state that names only columns
of the filter. -/
theorem read_eq_ok_iff {text : String} :
    config.read text = .ok state ↔
      decode FilterState.decode text = .ok state ∧
        ∀ entry ∈ state.columns, ∃ d ∈ config.descriptors, d.name = entry.1 := by
  -- no column is refused just where all of them are columns of the filter
  have hknown : ∀ read : FilterState,
      (read.columns.find? fun entry => (config.descriptor? entry.1).isNone) = none ↔
        ∀ entry ∈ read.columns, ∃ d ∈ config.descriptors, d.name = entry.1 := by
    intro read
    rw [List.find?_eq_none]
    refine forall₂_congr fun entry _ => ?_
    rw [descriptor?_isNone_iff]
    push Not
    rfl
  rw [read]
  cases hdecode : decode FilterState.decode text with
  | error fault => simp
  | ok read =>
    simp only [Except.ok.injEq]
    cases hfind : read.columns.find? fun entry => (config.descriptor? entry.1).isNone with
    | none =>
      have hnames := (hknown read).mp hfind
      constructor
      · intro h
        obtain rfl := Except.ok.inj h
        exact ⟨rfl, hnames⟩
      · rintro ⟨rfl, -⟩
        rfl
    | some entry =>
      -- a column was refused, so not all of them are known
      refine iff_of_false (fun h => nomatch h) ?_
      rintro ⟨rfl, hnames⟩
      rw [(hknown read).mpr hnames] at hfind
      cases hfind

/-- Which texts are accepted depends on nothing but the names of the columns. -/
theorem read_congr {ε' : Type} {other : FilterConfig ε'}
    (hnames : config.descriptors.map (·.name) = other.descriptors.map (·.name)) (text : String) :
    config.read text = other.read text := by
  have hknown : ∀ name, (config.descriptor? name).isNone = (other.descriptor? name).isNone := by
    intro name
    rw [Bool.eq_iff_iff, descriptor?_isNone_iff, descriptor?_isNone_iff]
    have hmem : name ∈ config.descriptors.map (·.name) ↔ name ∈ other.descriptors.map (·.name) := by
      rw [hnames]
    simpa using not_congr hmem
  simp only [read, hknown]

theorem sorted_of_read {text : String} (h : config.read text = .ok state) :
    Dictionary.Sorted state.columns :=
  FilterState.sorted_of_decode (read_eq_ok_iff.mp h).1

/-- A written state of columns of the filter is accepted. -/
theorem read_toText (hsorted : Dictionary.Sorted state.columns) (hback : state.ReadBack)
    (hnames : ∀ entry ∈ state.columns, ∃ d ∈ config.descriptors, d.name = entry.1) :
    config.read state.toText = .ok state :=
  read_eq_ok_iff.mpr ⟨FilterState.decode_toText hsorted hback, hnames⟩

/-- **Hiding a column.** Every column of a filter, mandatory or not, is hidden by an accepted
text. -/
theorem read_hidingOnly {d : FilterDescriptor} (hd : d ∈ config.descriptors) :
    config.read (FilterState.hidingOnly d.name).toText = .ok (.hidingOnly d.name) := by
  refine read_toText (List.pairwise_singleton _ _) (FilterState.readBack_hidingOnly d.name) ?_
  intro entry hentry
  obtain rfl := List.mem_singleton.mp hentry
  exact ⟨d, hd, rfl⟩

/-! ## The default state -/

/-- **Default state.** It holds what each descriptor starts with, and nothing else. -/
theorem column?_defaultState (hnodup : (config.descriptors.map (·.name)).Nodup) (name : String)
    (column : ColumnState) :
    config.defaultState.column? name = some column ↔
      ∃ d ∈ config.descriptors, d.name = name ∧ startingState d = column := by
  have hnames : ((config.descriptors.map fun d => (d.name, startingState d)).map
      Prod.fst).Nodup := by
    rwa [List.map_map]
  rw [FilterState.column?, defaultState, Dictionary.lookup_ofList_of_nodup hnames]
  simp only [List.mem_map, Prod.mk.injEq]

theorem mem_hiddenColumns_defaultState (hnodup : (config.descriptors.map (·.name)).Nodup)
    (name : String) :
    name ∈ config.defaultState.hiddenColumns ↔
      ∃ d ∈ config.descriptors, d.name = name ∧ d.displayed = false ∧ d.mandatory = false := by
  have hsorted : Dictionary.Sorted config.defaultState.columns := Dictionary.sorted_ofList _
  rw [FilterState.mem_hiddenColumns hsorted]
  simp only [column?_defaultState hnodup]
  constructor
  · rintro ⟨_, ⟨d, hd, hname, rfl⟩, hhidden⟩
    exact ⟨d, hd, hname, Bool.or_eq_false_iff.mp hhidden⟩
  · rintro ⟨d, hd, hname, hhidden⟩
    exact ⟨_, ⟨d, hd, hname, rfl⟩, Bool.or_eq_false_iff.mpr hhidden⟩

end FilterConfig

end DataGrid
