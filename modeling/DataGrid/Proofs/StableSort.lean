import Mathlib.Data.List.Basic

/-!
# Stable sorts

A stable sort of a list by a comparison puts its items in order and leaves those that compare
equal as they were. Where the comparison is a total preorder there is exactly one.

## Main definitions

* `IsStableSort`: a list is the stable sort of another one

## Main results

* `isStableSort_mergeSort`: merge sort is stable
* `isStableSort_of_mem`: stability is seen on the sorted items
* `IsStableSort.filter`, `IsStableSort.trans`: stable sorts of a part and of a stable sort
* `IsStableSort.unique`, `isStableSort_iff`: there is one stable sort, and merge sort finds it
* `mergeSort_filter_mergeSort`: a sort before a test makes no difference to one after it
* `transCmp_swap`, `transCmp_key`: the reverse of a total preorder is one, and so is the comparison
  of keys
* `IsStableSort.filter_key_eq`, `IsStableSort.pairwise_of_key_eq`: items with one key are left as
  they were
-/

namespace DataGrid

open Std (TransCmp OrientedCmp ReflCmp)

variable {α : Type} {cmp : α → α → Ordering} {input output other : List α}

/-- **Stable sort.** The output holds the items of the input in order, and those that compare
equal to an item are the same, in the same order. -/
structure IsStableSort (cmp : α → α → Ordering) (input output : List α) : Prop where
  perm : output.Perm input
  ordered : output.Pairwise fun a b => (cmp a b).isLE
  stable : ∀ a, (output.filter fun b => cmp a b == .eq) = input.filter fun b => cmp a b == .eq

variable [TransCmp cmp]

/-- The reverse of a total preorder is one. -/
theorem transCmp_swap : TransCmp fun a b => (cmp a b).swap := by
  -- the reverse order is the order of the exchanged items
  have hswap : (fun a b => (cmp a b).swap) = fun a b => cmp b a := by
    funext a b
    exact OrientedCmp.eq_swap.symm
  rw [hswap]
  exact TransCmp.opposite

/-! ## Existence -/

omit [TransCmp cmp] in
theorem isLE_total [OrientedCmp cmp] (a b : α) : (cmp a b).isLE || (cmp b a).isLE := by
  have hswap : cmp b a = (cmp a b).swap := OrientedCmp.eq_swap
  rw [hswap]
  cases cmp a b <;> rfl

/-- What compares equal to one item is in order in any arrangement. -/
theorem pairwise_filter_eq (a : α) (l : List α) :
    (l.filter fun b => cmp a b == .eq).Pairwise fun b c => (cmp b c).isLE := by
  refine List.pairwise_of_forall_mem_list fun b hb c hc => ?_
  have hab : cmp a b = .eq := by simpa using (List.mem_filter.mp hb).2
  have hac : cmp a c = .eq := by simpa using (List.mem_filter.mp hc).2
  have hbc : cmp b c = .eq := TransCmp.eq_trans (OrientedCmp.eq_symm hab) hac
  rw [hbc]
  rfl

/-- **Merge sort is stable.** -/
theorem isStableSort_mergeSort (input : List α) :
    IsStableSort cmp input (input.mergeSort fun a b => (cmp a b).isLE) := by
  have hperm := List.mergeSort_perm input fun a b => (cmp a b).isLE
  have htrans : ∀ a b c, (cmp a b).isLE → (cmp b c).isLE → (cmp a c).isLE :=
    fun _ _ _ => TransCmp.isLE_trans
  refine ⟨hperm, List.pairwise_mergeSort htrans isLE_total input, fun a => ?_⟩
  -- the equal items of the input are in order, so they are left standing as they are
  have hsub := (List.sublist_mergeSort htrans isLE_total (pairwise_filter_eq a input)
    List.filter_sublist).filter fun b => cmp a b == .eq
  simp only [List.filter_filter, Bool.and_self] at hsub
  exact (hsub.eq_of_length (hperm.filter _).length_eq.symm).symm

/-- Stability needs to be seen for the items that are sorted only. -/
theorem isStableSort_of_mem (hperm : output.Perm input)
    (hordered : output.Pairwise fun a b => (cmp a b).isLE)
    (hstable : ∀ a ∈ input,
      (output.filter fun b => cmp a b == .eq) = input.filter fun b => cmp a b == .eq) :
    IsStableSort cmp input output := by
  refine ⟨hperm, hordered, fun a => ?_⟩
  by_cases h : ∃ b ∈ input, cmp a b = .eq
  · -- what compares equal to `a` is what compares equal to an item
    obtain ⟨b, hb, hab⟩ := h
    simp only [TransCmp.congr_left hab]
    exact hstable b hb
  · -- nothing compares equal to `a`
    have hnone : ∀ b ∈ input, ¬ (cmp a b == .eq) := by
      intro b hb heq
      exact h ⟨b, hb, eq_of_beq heq⟩
    rw [List.filter_eq_nil_iff.mpr hnone,
      List.filter_eq_nil_iff.mpr fun b hb => hnone b (hperm.subset hb)]

/-! ## Keys -/

omit [TransCmp cmp] in
/-- Items are compared by their keys in a total preorder if the keys are. -/
theorem transCmp_key {κ : Type} (cmp : κ → κ → Ordering) [TransCmp cmp] (key : α → κ) :
    TransCmp fun a b => cmp (key a) (key b) where
  eq_swap := OrientedCmp.eq_swap
  isLE_trans := TransCmp.isLE_trans

omit [TransCmp cmp] in
/-- Items with one key are left standing as they were, if only equal keys compare equal. -/
theorem IsStableSort.filter_key_eq {κ : Type} [DecidableEq κ] {cmp : κ → κ → Ordering}
    {key : α → κ} (h : IsStableSort (fun a b => cmp (key a) (key b)) input output)
    (hcmp : ∀ k l, cmp k l = .eq ↔ k = l) (k : κ) :
    (output.filter fun a => key a = k) = input.filter fun a => key a = k := by
  by_cases hkey : ∃ a, key a = k
  · obtain ⟨a, rfl⟩ := hkey
    have hequal : ∀ b, decide (key b = key a) = (cmp (key a) (key b) == .eq) := fun b => by
      rw [Bool.eq_iff_iff, decide_eq_true_iff, beq_iff_eq, hcmp, eq_comm]
    simpa only [hequal] using h.stable a
  · -- no item at all has the key
    have hnone : ∀ a, ¬ key a = k := fun a ha => hkey ⟨a, ha⟩
    simp [hnone]

omit [TransCmp cmp] in
/-- What relates the items of the input in their order still relates those with one key. -/
theorem IsStableSort.pairwise_of_key_eq {κ : Type} [DecidableEq κ] {cmp : κ → κ → Ordering}
    (key : α → κ) (h : IsStableSort (fun a b => cmp (key a) (key b)) input output)
    (hcmp : ∀ k l, cmp k l = .eq ↔ k = l) {R : α → α → Prop} (hinput : input.Pairwise R) :
    output.Pairwise fun a b => key a = key b → R a b := by
  rw [List.pairwise_iff_forall_sublist]
  intro a b hab hkey
  -- two items with one key stand in the same order among the items with that key
  have hsub := hab.filter fun c => key c = key a
  have hboth : ([a, b].filter fun c => key c = key a) = [a, b] := by simp [hkey]
  rw [hboth, h.filter_key_eq hcmp] at hsub
  exact List.pairwise_iff_forall_sublist.mp (hinput.filter _) hsub

/-- Where the items of a kind stand before all others, they come first and the others behind. -/
theorem eq_filter_append_filter_not {l : List α} {kind : α → Bool}
    (h : l.Pairwise fun a b => kind b → kind a) :
    l = l.filter kind ++ l.filter (!kind ·) := by
  induction l with
  | nil => rfl
  | cons a l ih =>
    obtain ⟨hfirst, hrest⟩ := List.pairwise_cons.mp h
    by_cases ha : kind a
    · rw [List.filter_cons_of_pos ha, List.filter_cons_of_neg (by simp [ha]), List.cons_append,
        ← ih hrest]
    · -- the first item is not of the kind, and so is none behind it
      have hnone : ∀ b ∈ a :: l, ¬ kind b :=
        List.forall_mem_cons.mpr ⟨ha, fun b hb hkind => ha (hfirst b hb hkind)⟩
      have hall : ∀ b ∈ a :: l, !kind b := fun b hb => by simpa using hnone b hb
      rw [List.filter_eq_nil_iff.mpr hnone, List.nil_append, List.filter_eq_self.mpr hall]

/-! ## Sorting again -/

omit [TransCmp cmp] in
/-- What a test keeps of a stable sort is the stable sort of what it keeps. -/
theorem IsStableSort.filter (h : IsStableSort cmp input output) (keep : α → Bool) :
    IsStableSort cmp (input.filter keep) (output.filter keep) := by
  refine ⟨h.perm.filter keep, h.ordered.filter keep, fun a => ?_⟩
  rw [List.filter_comm, h.stable a, List.filter_comm]

omit [TransCmp cmp] in
/-- The stable sort of a stable sort is one of the input too. -/
theorem IsStableSort.trans (h : IsStableSort cmp input output)
    (h' : IsStableSort cmp output other) : IsStableSort cmp input other :=
  ⟨h'.perm.trans h.perm, h'.ordered, fun a => (h'.stable a).trans (h.stable a)⟩

/-! ## Uniqueness -/

/-- The first items of two stable sorts are one. -/
theorem IsStableSort.head_eq {a b : α} {l m : List α} (h : IsStableSort cmp input (a :: l))
    (h' : IsStableSort cmp input (b :: m)) : a = b := by
  have hperm := h.perm.trans h'.perm.symm
  -- `b` stands somewhere in the first list, behind `a`
  have hab : (cmp a b).isLE := by
    rcases List.mem_cons.mp (hperm.symm.subset List.mem_cons_self) with rfl | hb
    · exact Ordering.isLE_of_eq_eq ReflCmp.compare_self
    · exact List.rel_of_pairwise_cons h.ordered hb
  -- and the other way round, as the first list is in order too
  have hba : (cmp b a).isLE := by
    rcases List.mem_cons.mp (hperm.subset List.mem_cons_self) with rfl | ha
    · exact Ordering.isLE_of_eq_eq ReflCmp.compare_self
    · exact List.rel_of_pairwise_cons h'.ordered ha
  have heq : cmp a b = .eq := OrientedCmp.isLE_antisymm hab hba
  -- so both head the items that compare equal to `a`, which are one list
  have hstable := (h.stable a).trans (h'.stable a).symm
  rw [List.filter_cons_of_pos (by simp [ReflCmp.compare_self]),
    List.filter_cons_of_pos (by simp [heq])] at hstable
  exact (List.cons.inj hstable).1

/-- **There is only one stable sort.** -/
theorem IsStableSort.unique (h : IsStableSort cmp input output)
    (h' : IsStableSort cmp input other) : output = other := by
  -- Induction on the first sort: the heads are one item, and so are the tails.
  induction output generalizing input other with
  | nil => exact (h'.perm.trans h.perm.symm).eq_nil.symm
  | cons a l ih =>
    cases other with
    | nil => exact absurd (h.perm.trans h'.perm.symm).eq_nil (by simp)
    | cons b m =>
      obtain rfl := h.head_eq h'
      have htail : ∀ c, (m.filter fun d => cmp c d == .eq) =
          l.filter fun d => cmp c d == .eq := by
        intro c
        have hc := (h'.stable c).trans (h.stable c).symm
        by_cases hca : cmp c a = .eq
        · simpa [List.filter_cons, hca] using hc
        · simpa [List.filter_cons, hca] using hc
      -- both tails are stable sorts of the first one
      have hl : IsStableSort cmp l l := ⟨.refl l, h.ordered.tail, fun _ => rfl⟩
      have hm : IsStableSort cmp l m :=
        ⟨(h'.perm.trans h.perm.symm).cons_inv, h'.ordered.tail, htail⟩
      rw [ih hl hm]

/-- Merge sort finds the stable sort. -/
theorem isStableSort_iff :
    IsStableSort cmp input output ↔ output = input.mergeSort fun a b => (cmp a b).isLE :=
  ⟨fun h => h.unique (isStableSort_mergeSort input), fun h => h ▸ isStableSort_mergeSort input⟩

/-- Sorting before a test and after it is sorting after it. -/
theorem mergeSort_filter_mergeSort (input : List α) (keep : α → Bool) :
    ((input.mergeSort fun a b => (cmp a b).isLE).filter keep).mergeSort
        (fun a b => (cmp a b).isLE) =
      (input.filter keep).mergeSort fun a b => (cmp a b).isLE := by
  rw [← isStableSort_iff]
  exact ((isStableSort_mergeSort input).filter keep).trans (isStableSort_mergeSort _)

end DataGrid
