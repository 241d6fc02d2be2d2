import DataGrid.Proofs.Filter.Config
import DataGrid.Proofs.Steps

/-!
# Disabled columns

A column that has nothing to filter with is disabled: it cannot be sorted by either. New descriptors
are made so, and no step of a descriptor changes it, whatever the order of the steps is. A filter of
such descriptors starts with its disabled columns unsorted.

## Main definitions

* `FilterDescriptor.Step`, `FilterDescriptor.refineAll`: the steps that descriptors are made by
* `FilterDescriptor.DisablesSort`: what has nothing to filter with cannot be sorted by
* `FilterConfig.RestsDisabled`: no disabled column is sorted at first

## Main results

* `FilterDescriptor.disablesSort_refineAll`: descriptors that are made by steps
* `FilterDescriptor.sort_refineAll`: elsewhere the status that was set last counts
* `FilterConfig.restsDisabled`: filters of such descriptors
-/

namespace DataGrid

namespace FilterDescriptor

/-- **Disabled descriptors.** What has nothing to filter with cannot be sorted by. -/
def DisablesSort (d : FilterDescriptor) : Prop := d.widget = .none → d.sort = .none

@[simp]
theorem disablesSort_new (name fieldPath labelKey : String) (widget : Widget) :
    (new name fieldPath labelKey widget).DisablesSort :=
  (sort_new_eq_none_iff name fieldPath labelKey widget).mpr

@[simp]
theorem disablesSort_withDisplayed_iff (d : FilterDescriptor) (displayed : Bool) :
    (d.withDisplayed displayed).DisablesSort ↔ d.DisablesSort := Iff.rfl

@[simp]
theorem disablesSort_asMandatory_iff (d : FilterDescriptor) :
    d.asMandatory.DisablesSort ↔ d.DisablesSort := Iff.rfl

@[simp]
theorem disablesSort_withSort_iff (d : FilterDescriptor) (sort : SortStatus) :
    (d.withSort sort).DisablesSort ↔ d.DisablesSort := by
  rw [withSort]
  split
  · exact Iff.rfl
  · -- the descriptor is not disabled, so nothing is asked for
    rename_i hsome
    have hwidget : d.widget ≠ .none := mt Widget.isNone_iff.mpr hsome
    exact iff_of_true (fun h => absurd h hwidget) (fun h => absurd h hwidget)

/-! ## Steps -/

/-- **Step.** One call that sets a part of a descriptor. -/
inductive Step where
  | displayed (displayed : Bool)
  | mandatory
  | sort (status : SortStatus)
  deriving Repr, DecidableEq

/-- The status that a step asks for. -/
def Step.sort? : Step → Option SortStatus
  | sort status => some status
  | displayed _ | mandatory => none

/-- The descriptor after a step. -/
def refine (d : FilterDescriptor) : Step → FilterDescriptor
  | .displayed displayed => d.withDisplayed displayed
  | .mandatory => d.asMandatory
  | .sort status => d.withSort status

/-- The descriptor after steps, the first one first. -/
def refineAll (d : FilterDescriptor) (steps : List Step) : FilterDescriptor :=
  steps.foldl refine d

theorem widget_refine (d : FilterDescriptor) (step : Step) :
    (d.refine step).widget = d.widget := by
  cases step <;> simp [refine]

/-- A step leaves it as it is whether a disabled descriptor can be sorted by. -/
theorem disablesSort_refine (d : FilterDescriptor) (step : Step) :
    (d.refine step).DisablesSort ↔ d.DisablesSort := by
  cases step <;> simp [refine]

/-- A descriptor that is not disabled takes the status that a step asks for. -/
theorem sort_refine {d : FilterDescriptor} (h : d.widget ≠ .none) (step : Step) :
    (d.refine step).sort = step.sort?.getD d.sort := by
  cases step with
  | sort status =>
    rw [refine, withSort, if_neg (mt Widget.isNone_iff.mp h)]
    rfl
  | displayed | mandatory => rfl

/-- **Steps.** No run of steps makes a disabled descriptor one that can be sorted by. -/
theorem disablesSort_refineAll (d : FilterDescriptor) (steps : List Step) :
    (d.refineAll steps).DisablesSort ↔ d.DisablesSort := by
  induction steps generalizing d with
  | nil => exact Iff.rfl
  | cons step steps ih => rw [refineAll, List.foldl_cons, ← refineAll, ih, disablesSort_refine]

/-- A descriptor that is not disabled has the status that was asked for last. -/
theorem sort_refineAll {d : FilterDescriptor} (h : d.widget ≠ .none) (steps : List Step) :
    (d.refineAll steps).sort = (steps.filterMap Step.sort?).getLastD d.sort :=
  foldl_eq_getLastD_filterMap_of (fun d step h => widget_refine d step ▸ h)
    (fun _ step h => sort_refine h step) h steps

end FilterDescriptor

/-! ## Filters -/

namespace FilterConfig

variable {ε : Type} {config : FilterConfig ε}

/-- **Disabled columns at rest.** The default state holds a disabled column as one that cannot be
sorted by, and the column that the filter starts sorted by is another one. -/
structure RestsDisabled (config : FilterConfig ε) : Prop where
  stored : ∀ d ∈ config.descriptors, d.widget = .none →
    ∃ column, config.defaultState.column? d.name = some column ∧ column.sort = .none
  notFirst : ∀ d ∈ config.descriptors, d.widget = .none →
    ∀ sort, config.initialSort ≠ some (d.name, sort)

theorem restsDisabled (hnodup : (config.descriptors.map (·.name)).Nodup)
    (h : ∀ d ∈ config.descriptors, d.DisablesSort) : config.RestsDisabled where
  stored d hd hnone :=
    ⟨startingState d, (column?_defaultState hnodup d.name _).mpr ⟨d, hd, rfl, rfl⟩, h d hd hnone⟩
  notFirst d hd hnone sort hfirst := by
    obtain ⟨first, hfind, heq⟩ := Option.map_eq_some_iff.mp hfirst
    -- names are different, so the column that was found would be this one
    obtain rfl : first = d :=
      List.inj_on_of_nodup_map hnodup (List.mem_of_find?_eq_some hfind) hd (congrArg Prod.fst heq)
    have hsorted := List.find?_some hfind
    rw [h first hd hnone] at hsorted
    cases hsorted

end FilterConfig

end DataGrid
