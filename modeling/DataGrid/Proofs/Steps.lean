import Mathlib.Data.List.Basic

/-!
# Runs of steps

Columns and drafts are made by steps, one after the other. What each step does to a part of a
draft says what a run of steps does to it.

## Main results

* `foldl_eq_append_flatMap`: a part that steps add to has what all of them added, in order
* `foldl_eq_getLastD_filterMap`, `foldl_eq_getLastD_filterMap_of`: a part that steps set has what
  was set last, in general and while a condition lasts
-/

namespace DataGrid

variable {δ σ α : Type} {after : δ → σ → δ}

/-- **Adding.** Where each step adds behind what is there, a run adds what all steps add, in
order. -/
theorem foldl_eq_append_flatMap {items : δ → List α} {added : σ → List α}
    (hstep : ∀ draft step, items (after draft step) = items draft ++ added step)
    (draft : δ) (steps : List σ) :
    items (steps.foldl after draft) = items draft ++ steps.flatMap added := by
  induction steps generalizing draft with
  | nil => exact (List.append_nil _).symm
  | cons step steps ih =>
    rw [List.foldl_cons, ih, hstep, List.flatMap_cons, List.append_assoc]

/-- **Setting while a condition lasts.** Where a condition is kept by all steps, and under it each
step sets something or leaves it as it is, a run leaves what was set last, or else what was there
before. -/
theorem foldl_eq_getLastD_filterMap_of {part : δ → α} {set? : σ → Option α} {lasts : δ → Prop}
    (hkept : ∀ draft step, lasts draft → lasts (after draft step))
    (hstep : ∀ draft step, lasts draft →
      part (after draft step) = (set? step).getD (part draft))
    {draft : δ} (h : lasts draft) (steps : List σ) :
    part (steps.foldl after draft) = (steps.filterMap set?).getLastD (part draft) := by
  -- Induction on the steps: what is set takes the place of what was there.
  induction steps generalizing draft with
  | nil => rfl
  | cons step steps ih =>
    rw [List.foldl_cons, ih (hkept draft step h), hstep draft step h, List.filterMap_cons]
    cases set? step with
    | none => rfl
    | some value => exact List.getLastD_cons.symm

/-- **Setting.** Where each step sets something or leaves it as it is, a run leaves what was set
last, or else what was there before. -/
theorem foldl_eq_getLastD_filterMap {part : δ → α} {set? : σ → Option α}
    (hstep : ∀ draft step, part (after draft step) = (set? step).getD (part draft))
    (draft : δ) (steps : List σ) :
    part (steps.foldl after draft) = (steps.filterMap set?).getLastD (part draft) :=
  @foldl_eq_getLastD_filterMap_of δ σ α after part set? (fun _ => True) (fun _ _ h => h)
    (fun draft step _ => hstep draft step) draft trivial steps

end DataGrid
