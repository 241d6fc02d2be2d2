import Mathlib.Data.List.Nodup
import Mathlib.Tactic.Tauto

/-!
# Checks by name

Drafts are checked item by item from the left. An item is refused if its name is that of one before
it, or else for a fault of its own, and the check ends at the first item that is refused. Items
that passed have different names, and are found by them.

## Main definitions

* `checkNamed`: the check, by the error for a repeated name and the fault of an item

## Main results

* `checkNamed_append`: items are checked behind those that passed
* `checkNamed_eq_ok_iff`: which items pass
* `checkNamed_eq_error_iff`: the error is that of the first item that is refused
* `checkNamed_nil_eq_ok_iff`, `checkNamed_nil_eq_error_iff`: both, where no name was seen before
* `find?_name_of_mem`, `find?_name_eq_some_iff`: items of different names are found by them
-/

namespace DataGrid

variable {α β ε : Type} (name : α → String) (repeated : String → ε) (fault? : α → Option ε)

/-- **Check.** Items are passed up to the first repeated name or fault. The names seen are those
before an item, the last one first. -/
def checkNamed (seen : List String) : List α → Except ε Unit
  | [] => .ok ()
  | a :: rest =>
    if name a ∈ seen then .error (repeated (name a))
    else
      match fault? a with
      | some fault => .error fault
      | none => checkNamed (name a :: seen) rest

variable {name repeated fault?} {seen : List String} {items : List α}

theorem checkNamed_append (seen : List String) (as bs : List α) :
    checkNamed name repeated fault? seen (as ++ bs) =
      (checkNamed name repeated fault? seen as).bind fun () =>
        checkNamed name repeated fault? ((as.map name).reverse ++ seen) bs := by
  induction as generalizing seen with
  | nil => rfl
  | cons a as ih =>
    rw [List.cons_append, checkNamed, checkNamed]
    split
    · rfl
    cases fault? a with
    | some fault => rfl
    | none =>
      simp only [ih, List.map_cons, List.reverse_cons, List.append_assoc, List.cons_append,
        List.nil_append]

theorem checkNamed_map (f : β → α) (seen : List String) (bs : List β) :
    checkNamed name repeated fault? seen (bs.map f) =
      checkNamed (fun b => name (f b)) repeated (fun b => fault? (f b)) seen bs := by
  induction bs generalizing seen with
  | nil => rfl
  | cons b bs ih =>
    rw [List.map_cons, checkNamed, checkNamed]
    split
    · rfl
    cases fault? (f b) with
    | some fault => rfl
    | none => exact ih _

/-- Items pass if their names are new and all different and they have no fault. -/
theorem checkNamed_eq_ok_iff :
    checkNamed name repeated fault? seen items = .ok () ↔
      ((items.map name).Nodup ∧ (items.map name).Disjoint seen) ∧
        ∀ a ∈ items, fault? a = none := by
  -- Induction on the items; the name of each one is seen by those after it.
  induction items generalizing seen with
  | nil => simp [checkNamed]
  | cons a rest ih =>
    rw [checkNamed, List.map_cons, List.nodup_cons, List.disjoint_cons_left, List.forall_mem_cons]
    by_cases hseen : name a ∈ seen
    · -- a repeated name is refused, and is not disjoint from those seen
      simp [hseen]
    cases hfault : fault? a with
    | some fault => simp [hseen]
    | none =>
      -- an item without a fault is passed, and the rest has to avoid its name too
      simp only [hseen, if_false, ih, List.disjoint_cons_right]
      tauto

/-- **First refusal.** The check fails just where all items before some item pass and that item
has a name seen before, or a new one and a fault. -/
theorem checkNamed_eq_error_iff {e : ε} :
    checkNamed name repeated fault? seen items = .error e ↔
      ∃ before a after, items = before ++ a :: after ∧
        checkNamed name repeated fault? seen before = .ok () ∧
          ((name a ∈ before.map name ++ seen ∧ e = repeated (name a)) ∨
            (name a ∉ before.map name ++ seen ∧ fault? a = some e)) := by
  constructor
  · -- Induction on the items: the first one is refused, or it passes and one behind it is.
    intro h
    induction items generalizing seen with
    | nil => cases h
    | cons a rest ih =>
      rw [checkNamed] at h
      by_cases hseen : name a ∈ seen
      · rw [if_pos hseen] at h
        cases h
        exact ⟨[], a, rest, rfl, rfl, .inl ⟨hseen, rfl⟩⟩
      rw [if_neg hseen] at h
      cases hfault : fault? a with
      | some fault =>
        rw [hfault] at h
        cases h
        exact ⟨[], a, rest, rfl, rfl, .inr ⟨hseen, hfault⟩⟩
      | none =>
        rw [hfault] at h
        obtain ⟨before, b, after, rfl, hpassed, hb⟩ := ih h
        refine ⟨a :: before, b, after, rfl, ?_, ?_⟩
        · rw [checkNamed, if_neg hseen, hfault]
          exact hpassed
        · -- the names before the item are the same, in another order
          have hmem : name b ∈ (a :: before).map name ++ seen ↔
              name b ∈ before.map name ++ name a :: seen := by
            simp only [List.map_cons, List.cons_append, List.mem_cons, List.mem_append]
            tauto
          rwa [hmem]
  · rintro ⟨before, a, after, rfl, hpassed, hrefused⟩
    have hmem : name a ∈ (before.map name).reverse ++ seen ↔ name a ∈ before.map name ++ seen := by
      simp only [List.mem_append, List.mem_reverse]
    rw [checkNamed_append, hpassed]
    show checkNamed name repeated fault? _ (a :: after) = .error e
    rw [checkNamed]
    rcases hrefused with ⟨hseen, rfl⟩ | ⟨hnew, hfault⟩
    · rw [if_pos (hmem.mpr hseen)]
    · rw [if_neg (mt hmem.mp hnew), hfault]

/-- Items pass from the start if their names are all different and they have no fault. -/
theorem checkNamed_nil_eq_ok_iff :
    checkNamed name repeated fault? [] items = .ok () ↔
      (items.map name).Nodup ∧ ∀ a ∈ items, fault? a = none := by
  rw [checkNamed_eq_ok_iff, and_iff_left (List.disjoint_nil_right _)]

/-- **First refusal from the start.** The error is that of an item behind faultless ones of
different names. It is for the repeated name if its name is one of theirs, and else for its
fault. -/
theorem checkNamed_nil_eq_error_iff {e : ε} :
    checkNamed name repeated fault? [] items = .error e ↔
      ∃ before a after, items = before ++ a :: after ∧
        ((before.map name).Nodup ∧ ∀ b ∈ before, fault? b = none) ∧
          ((name a ∈ before.map name ∧ e = repeated (name a)) ∨
            (name a ∉ before.map name ∧ fault? a = some e)) := by
  rw [checkNamed_eq_error_iff]
  simp only [checkNamed_nil_eq_ok_iff, List.append_nil]

/-- Items whose names are all different are found by them. -/
theorem find?_name_of_mem (hnodup : (items.map name).Nodup) {a : α} (ha : a ∈ items) :
    (items.find? fun b => name b == name a) = some a := by
  cases hfound : items.find? fun b => name b == name a with
  | none => exact absurd (List.find?_eq_none.mp hfound a ha) (by simp)
  | some found =>
    have hname : name found = name a := by simpa using List.find?_some hfound
    rw [List.inj_on_of_nodup_map hnodup (List.mem_of_find?_eq_some hfound) ha hname]

theorem find?_name_eq_some_iff (hnodup : (items.map name).Nodup) {key : String} {a : α} :
    (items.find? fun b => name b == key) = some a ↔ a ∈ items ∧ name a = key := by
  constructor
  · intro h
    have hname : name a = key := by simpa using List.find?_some h
    exact ⟨List.mem_of_find?_eq_some h, hname⟩
  · rintro ⟨ha, rfl⟩
    exact find?_name_of_mem hnodup ha

end DataGrid
