import DataGrid.Column.Basic
import DataGrid.Proofs.Steps
import Mathlib.Tactic.SplitIfs

/-!
# Columns that leave the row's link alone

Whether the cells of a column leave the row's link alone is written down twice: as a flag, and
as a class of the cells. The flag is raised by a step of its own and by classes that hold the skip
class, and it is never lowered; the class is added where the flag asks for it and the classes that
were set do not hold it. So both say the same, whatever steps a column was made by.

## Main definitions

* `Column.Step`, `Column.refineAll`: the steps that columns are made by
* `Column.Made`: columns that were made new and refined
* `Column.Agrees`: the skip class is not among the classes that were set unless the flag is raised

## Main results

* `Column.words_valueCss`: the classes of the cells
* `Column.ownCss_refineAll`, `Column.skipsRowAction_refineAll`: what steps come to
* `Column.agrees_refineAll`: steps keep flag and classes in agreement
* `Column.skipClass_mem_valueCss_iff`: the flag is the class
-/

namespace DataGrid

open Markup

variable {ρ : Type}

/-! ## Classes -/

theorem Text.words_append_space (s t : String) :
    Text.words (s ++ " " ++ t) = Text.words s ++ Text.words t := by
  have hspace : (s ++ " " ++ t).toList = s.toList ++ ' ' :: t.toList := by simp
  rw [words, words, words, hspace, List.splitOnP_append_cons _ _ (by decide), List.filter_append,
    List.map_append]

theorem Text.words_skipClass : Text.words skipClass = [skipClass] := by decide

theorem hasSkipClass_iff {css : String} : hasSkipClass css ↔ skipClass ∈ Text.words css :=
  List.contains_iff_mem

namespace Column

/-- **Classes of the cells.** They are those that were set, and the skip class behind them where
the flag asks for it and it is not among them. -/
theorem words_valueCss (c : Column ρ) :
    Text.words c.valueCss = Text.words c.ownCss ++
      if c.skipsRowAction ∧ skipClass ∉ Text.words c.ownCss then [skipClass] else [] := by
  have hadded : (c.skipsRowAction && !hasSkipClass c.ownCss) = true ↔
      c.skipsRowAction ∧ skipClass ∉ Text.words c.ownCss := by
    rw [Bool.and_eq_true, Bool.not_eq_true', Bool.eq_false_iff, ne_eq, hasSkipClass_iff]
  by_cases hadd : c.skipsRowAction ∧ skipClass ∉ Text.words c.ownCss
  · rw [valueCss, if_pos (hadded.mpr hadd), if_pos hadd]
    by_cases hempty : c.ownCss.isEmpty
    · -- no classes were set, so the skip class stands alone
      rw [if_pos hempty, String.isEmpty_iff.mp hempty, Text.words_skipClass]
      rfl
    · rw [if_neg hempty, Text.words_append_space, Text.words_skipClass]
  · rw [valueCss, if_neg (mt hadded.mp hadd), if_neg hadd, List.append_nil]

/-! ## Steps -/

/-- **Step.** One refinement of a column. -/
inductive Step (ρ : Type) where
  | sorter (sorter : Sorter)
  | formatter (formatter : Formatter ρ)
  | headerCss (css : String)
  | valueCss (css : String)
  | skippingRowAction
  | hidden (hidden : Bool)
  | visibleIf (visible : ρ → Bool)

/-- The classes that a step sets for the cells. -/
def Step.css? : Step ρ → Option String
  | valueCss css => some css
  | _ => .none

/-- Whether a step raises the flag. -/
def Step.raisesFlag : Step ρ → Bool
  | valueCss css => hasSkipClass css
  | skippingRowAction => true
  | _ => false

/-- The column after a step. -/
def refine (c : Column ρ) : Step ρ → Column ρ
  | .sorter sorter => c.withSorter sorter
  | .formatter formatter => c.withFormatter formatter
  | .headerCss css => c.withHeaderCss css
  | .valueCss css => c.withValueCss css
  | .skippingRowAction => c.skippingRowAction
  | .hidden hidden => c.withHidden hidden
  | .visibleIf visible => c.withVisibleIf visible

/-- The column after steps, the first one first. -/
def refineAll (c : Column ρ) (steps : List (Step ρ)) : Column ρ := steps.foldl refine c

/-- **New columns.** No step has been taken yet. -/
def IsNew (c : Column ρ) : Prop :=
  (∃ name field labelKey, c = ofField name field labelKey) ∨
    ∃ name labelKey compute, c = computed name labelKey compute

/-- **Made columns.** The column was made new and refined by steps. -/
def Made (c : Column ρ) : Prop := ∃ start steps, IsNew start ∧ start.refineAll steps = c

theorem Made.withHidden {c : Column ρ} (h : c.Made) (hidden : Bool) :
    (c.withHidden hidden).Made := by
  obtain ⟨start, steps, hnew, rfl⟩ := h
  -- hiding a column, or showing it, is one more step
  refine ⟨start, steps ++ [.hidden hidden], hnew, ?_⟩
  rw [refineAll, List.foldl_append]
  rfl

/-- The classes that steps set last. -/
def lastCss (steps : List (Step ρ)) : String := (steps.filterMap Step.css?).getLastD ""

/-! ## What steps come to -/

theorem ownCss_refine (c : Column ρ) (step : Step ρ) :
    (c.refine step).ownCss = step.css?.getD c.ownCss := by
  cases step <;> rfl

theorem skipsRowAction_refine (c : Column ρ) (step : Step ρ) :
    (c.refine step).skipsRowAction = (c.skipsRowAction || step.raisesFlag) := by
  cases step with
  | valueCss css => rfl
  | skippingRowAction => exact (Bool.or_true _).symm
  | sorter | formatter | headerCss | hidden | visibleIf => exact (Bool.or_false _).symm

/-- The classes that were set last are kept. -/
theorem ownCss_refineAll (c : Column ρ) (steps : List (Step ρ)) :
    (c.refineAll steps).ownCss = (steps.filterMap Step.css?).getLastD c.ownCss :=
  foldl_eq_getLastD_filterMap ownCss_refine c steps

/-- The flag is raised by any step that raises it, and never lowered. -/
theorem skipsRowAction_refineAll (c : Column ρ) (steps : List (Step ρ)) :
    (c.refineAll steps).skipsRowAction = (c.skipsRowAction || steps.any Step.raisesFlag) := by
  induction steps generalizing c with
  | nil => exact (Bool.or_false _).symm
  | cons step steps ih =>
    rw [refineAll, List.foldl_cons, ← refineAll, ih, skipsRowAction_refine, List.any_cons,
      Bool.or_assoc]

/-! ## Flag and class -/

/-- **Agreement.** Where the classes that were set hold the skip class, the flag is raised. -/
def Agrees (c : Column ρ) : Prop := skipClass ∈ Text.words c.ownCss → c.skipsRowAction

theorem IsNew.agrees {c : Column ρ} (h : c.IsNew) : c.Agrees := by
  have hnone : skipClass ∉ Text.words "" := by decide
  rcases h with ⟨_, _, _, rfl⟩ | ⟨_, _, _, rfl⟩ <;> exact fun hmem => absurd hmem hnone

/-- A step keeps flag and classes in agreement. -/
theorem agrees_refine {c : Column ρ} (h : c.Agrees) (step : Step ρ) : (c.refine step).Agrees := by
  intro hmem
  rw [ownCss_refine] at hmem
  rw [skipsRowAction_refine, Bool.or_eq_true]
  cases step with
  | valueCss css => exact .inr (hasSkipClass_iff.mpr hmem)
  | skippingRowAction => exact .inr rfl
  | sorter | formatter | headerCss | hidden | visibleIf => exact .inl (h hmem)

theorem agrees_refineAll {c : Column ρ} (h : c.Agrees) (steps : List (Step ρ)) :
    (c.refineAll steps).Agrees := by
  induction steps generalizing c with
  | nil => exact h
  | cons step steps ih => exact ih (agrees_refine h step)

theorem Made.agrees {c : Column ρ} (h : c.Made) : c.Agrees := by
  obtain ⟨start, steps, hnew, rfl⟩ := h
  exact agrees_refineAll hnew.agrees steps

/-- **Flag and class.** The flag is raised just where the cells have the skip class. -/
theorem skipClass_mem_valueCss_iff {c : Column ρ} (h : c.Agrees) :
    skipClass ∈ Text.words c.valueCss ↔ c.skipsRowAction := by
  rw [words_valueCss, List.mem_append]
  constructor
  · rintro (hmem | hmem)
    · exact h hmem
    · -- the class was added, which the flag asked for
      split_ifs at hmem with hadded
      · exact hadded.1
      · cases hmem
  · intro hflag
    by_cases hmem : skipClass ∈ Text.words c.ownCss
    · exact .inl hmem
    · exact .inr (by rw [if_pos ⟨hflag, hmem⟩]; exact List.mem_singleton_self _)

end Column

end DataGrid
