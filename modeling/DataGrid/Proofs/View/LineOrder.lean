import DataGrid.Proofs.View.OrderTotal
import Mathlib.Algebra.BigOperators.Group.List.Basic
import Mathlib.Algebra.Order.BigOperators.Group.List

/-!
# Totals and the arrangement of lines

The exact total of an order is the same for every arrangement of its lines. A total that is added
up from the left is the exact one and its round-offs, and these may be other ones when the lines
are rearranged; a sum on the way may even reach the limit in one arrangement and not in another.
Where the amounts have few enough places and are not too large, no addition rounds and every
arrangement gives the exact total.

## Main definitions

* `PurchaseOrder.withLines`: an order with other lines
* `PurchaseOrder.Overflows`, `PurchaseOrder.totalRoundOff`: what happens on the way to a total

## Main results

* `map_value_amount_of_overflows`, `map_value_amount`: a total by what happens on the way to it
* `representable_sum`: amounts that can be added up exactly
* `exists_foldlM_add_of_perm`: small amounts are added up exactly in every arrangement
* `map_value_amount_withLines_iff`: when two arrangements have one total
* `amount_reversed_ne`: orders whose totals depend on the arrangement
-/

namespace DataGrid

open Numeric Numeric.Decimal

namespace PurchaseOrder

/-- The order with other lines. -/
def withLines (o : PurchaseOrder) (lines : List LineItem) : PurchaseOrder :=
  { o with lineItems := lines }

/-- **Overflow.** A sum on the way to the total is rounded to the limit or beyond. -/
def Overflows (o : PurchaseOrder) : Prop :=
  ∃ step ∈ additions zero o.amounts, (twoTo 96 - 1 / 2 : ℚ) ≤ |step.1.value + step.2.value|

/-- What the additions on the way to the total round off in all. -/
def totalRoundOff (o : PurchaseOrder) : ℚ := ((additions zero o.amounts).map roundOff).sum

variable {o : PurchaseOrder} {lines : List LineItem}

theorem amounts_withLines_perm (h : lines.Perm o.lineItems) :
    (o.withLines lines).amounts.Perm o.amounts := h.filterMap _

/-- The exact total does not depend on the arrangement of lines. -/
theorem exactTotal_withLines (h : lines.Perm o.lineItems) :
    (o.withLines lines).exactTotal = o.exactTotal := (h.map _).sum_eq

end PurchaseOrder

/-! ## Totals by what happens on the way -/

section Totals

variable (routes : Routes) {o : PurchaseOrder}

theorem foldlM_add_eq_none_iff_overflows :
    o.amounts.foldlM Decimal.add zero = none ↔ o.Overflows := by
  simp only [foldlM_add_eq_none_iff, add_eq_none_iff, PurchaseOrder.Overflows]

theorem map_value_amount_of_overflows (h : o.Overflows) :
    (PurchaseOrderRow.new routes o).amount.map value = none :=
  congrArg (Option.map value) (foldlM_add_eq_none_iff_overflows.mpr h)

/-- **Total.** It is the exact one and all round-offs. -/
theorem map_value_amount (h : ¬ o.Overflows) :
    (PurchaseOrderRow.new routes o).amount.map value =
      some (o.exactTotal + o.totalRoundOff) := by
  obtain ⟨d, hd⟩ := Option.ne_none_iff_exists'.mp (mt foldlM_add_eq_none_iff_overflows.mp h)
  have hvalue := foldlM_add_value hd
  rw [value_zero, zero_add, ← o.exactTotal_eq] at hvalue
  calc (PurchaseOrderRow.new routes o).amount.map value
    _ = some d.value := congrArg (Option.map value) hd
    _ = some (o.exactTotal + o.totalRoundOff) := congrArg some hvalue

end Totals

/-! ## Amounts that are added up exactly -/

section Small

variable {places : Nat} {amounts : List Decimal}

/-- Amounts of few places add up to a fraction of so many places. -/
theorem sum_value_eq (hplaces : ∀ a ∈ amounts, a.scale ≤ places) :
    (amounts.map value).sum =
      ((amounts.map (·.coefficientAt places)).sum : ℤ) / tenTo places := by
  induction amounts with
  | nil => simp
  | cons a rest ih =>
    rw [List.map_cons, List.map_cons, List.sum_cons, List.sum_cons, Int.cast_add, add_div,
      ih fun b hb => hplaces b (List.mem_cons_of_mem a hb),
      value_eq_coefficientAt (hplaces a List.mem_cons_self)]

theorem abs_sum_value_le (amounts : List Decimal) :
    |(amounts.map value).sum| ≤ (amounts.map (|·.value|)).sum := by
  induction amounts with
  | nil => simp
  | cons a rest ih =>
    rw [List.map_cons, List.map_cons, List.sum_cons, List.sum_cons]
    exact (abs_add_le _ _).trans (by gcongr)

/-- **Exact sums.** Amounts of few places have a sum with a decimal if they are small in all. -/
theorem representable_sum (hscale : places ≤ 28) (hplaces : ∀ a ∈ amounts, a.scale ≤ places)
    (hsmall : (amounts.map (|·.value|)).sum * tenTo places < twoTo 96) :
    Representable (amounts.map value).sum := by
  rw [sum_value_eq hplaces, representable_iff hscale]
  -- no zero has to be taken off the numerator
  refine ⟨0, Nat.zero_le _, one_dvd _, ?_⟩
  -- the numerator of the sum is not larger than those of all sizes together
  have habs := abs_sum_value_le amounts
  rw [sum_value_eq hplaces, abs_div, Nat.abs_cast, div_le_iff₀ (cast_tenTo_pos places),
    ← Int.cast_abs, ← Int.natCast_natAbs] at habs
  rw [show tenTo 0 = 1 from rfl, Nat.div_one]
  exact_mod_cast habs.trans_lt hsmall

/-- Small amounts are added up exactly in every arrangement. -/
theorem exists_foldlM_add_of_perm {arranged : List Decimal} (hperm : arranged.Perm amounts)
    (hscale : places ≤ 28) (hplaces : ∀ a ∈ amounts, a.scale ≤ places)
    (hsmall : (amounts.map (|·.value|)).sum * tenTo places < twoTo 96) :
    ∃ d, arranged.foldlM Decimal.add zero = some d ∧ d.value = (amounts.map value).sum := by
  have hparts : ∀ part, part <+: arranged →
      Representable (zero.value + (part.map value).sum) := by
    rintro part ⟨rest, rfl⟩
    rw [value_zero, zero_add]
    refine representable_sum hscale (fun a ha => ?_) (lt_of_le_of_lt ?_ hsmall)
    · exact hplaces a (hperm.subset (List.mem_append_left rest ha))
    · -- what has been added so far is not larger than all amounts together
      rw [← (hperm.map (|·.value|)).sum_eq, List.map_append, List.sum_append]
      have hrest : 0 ≤ (rest.map (|·.value|)).sum :=
        List.sum_nonneg fun x hx => by
          obtain ⟨a, -, rfl⟩ := List.mem_map.mp hx
          exact abs_nonneg _
      exact mul_le_mul_of_nonneg_right (le_add_of_nonneg_right hrest) (cast_tenTo_pos places).le
  obtain ⟨d, hd, hvalue⟩ := exists_foldlM_add hparts
  refine ⟨d, hd, ?_⟩
  rw [hvalue, value_zero, zero_add, (hperm.map value).sum_eq]

end Small

/-! ## Arrangements of lines -/

/-- **Arrangement of lines.** Two arrangements of the lines of an order have one total, or none,
just where sums reach the limit on the way to both or to neither and, if to neither, the additions
round off the same in all. If the amounts have at most so many places, and are below the limit
when their sizes are added up in units of the last place, every arrangement has the exact total. -/
theorem map_value_amount_withLines_iff (routes : Routes) (o : PurchaseOrder)
    (lines : List LineItem) (hperm : lines.Perm o.lineItems) :
    ((PurchaseOrderRow.new routes (o.withLines lines)).amount.map value =
        (PurchaseOrderRow.new routes o).amount.map value ↔
      ((o.withLines lines).Overflows ↔ o.Overflows) ∧
        (¬ o.Overflows → (o.withLines lines).totalRoundOff = o.totalRoundOff)) ∧
      ∀ places ≤ 28, (∀ a ∈ o.amounts, a.scale ≤ places) →
        (o.amounts.map (|·.value|)).sum * tenTo places < twoTo 96 →
          (PurchaseOrderRow.new routes (o.withLines lines)).amount.map value =
            some o.exactTotal := by
  have htotal := PurchaseOrder.exactTotal_withLines hperm
  constructor
  · by_cases hover : o.Overflows
    · -- without a total the other arrangement must have none either
      rw [map_value_amount_of_overflows routes hover]
      by_cases hover' : (o.withLines lines).Overflows
      · simp [map_value_amount_of_overflows routes hover', hover, hover']
      · simp [map_value_amount routes hover', hover, hover']
    · rw [map_value_amount routes hover]
      by_cases hover' : (o.withLines lines).Overflows
      · simp [map_value_amount_of_overflows routes hover', hover, hover']
      · simp [map_value_amount routes hover', hover, hover', htotal]
  · intro places hscale hplaces hsmall
    obtain ⟨d, hd, hvalue⟩ := exists_foldlM_add_of_perm
      (PurchaseOrder.amounts_withLines_perm hperm) hscale hplaces hsmall
    calc (PurchaseOrderRow.new routes (o.withLines lines)).amount.map value
      _ = some d.value := congrArg (Option.map value) hd
      _ = some o.exactTotal := by rw [hvalue, o.exactTotal_eq]

def tenFifty : Decimal := ⟨false, 1050, 2, by decide, by decide⟩

def fiveAndQuarter : Decimal := ⟨false, 525, 2, by decide, by decide⟩

/-- An order of 10.50 and 5.25. -/
def centsOrder : PurchaseOrder :=
  ⟨.ofNat 1, "PO-1", false, [lineOf tenFifty, lineOf fiveAndQuarter]⟩

/-- Amounts in cents have their exact total in both arrangements. -/
theorem map_value_amount_centsOrder :
    (centsOrder.withLines centsOrder.lineItems.reverse).lineItems.Perm centsOrder.lineItems ∧
      (PurchaseOrderRow.new .standard
          (centsOrder.withLines centsOrder.lineItems.reverse)).amount.map value =
        some centsOrder.exactTotal ∧
        centsOrder.exactTotal = 15.75 := by
  have hperm := List.reverse_perm centsOrder.lineItems
  have hsmall : (centsOrder.amounts.map (|·.value|)).sum * tenTo 2 < twoTo 96 := by
    rw [show centsOrder.amounts = [tenFifty, fiveAndQuarter] from rfl]
    norm_num [tenFifty, fiveAndQuarter, value, coefficient, tenTo, twoTo]
  refine ⟨hperm, ?_, ?_⟩
  · exact (map_value_amount_withLines_iff .standard centsOrder _ hperm).2 2 (by decide)
      (by decide) hsmall
  · norm_num [PurchaseOrder.exactTotal, centsOrder, lineOf, tenFifty, fiveAndQuarter, value,
      coefficient, tenTo]

def eight : Decimal := ⟨false, 8, 0, by decide, zero.scale_le⟩

/-- Five units of the last place. -/
def fiveSmallest : Decimal := ⟨false, 5, 28, by decide, smallest.scale_le⟩

/-- An order of eight and twice five units of the last place. -/
def eightAndCrumbs : PurchaseOrder :=
  ⟨.ofNat 1, "PO-1", false, [lineOf eight, lineOf fiveSmallest, lineOf fiveSmallest]⟩

/-- The largest decimal. -/
def largest : Decimal := ⟨false, twoTo 96 - 1, 0, by decide, zero.scale_le⟩

def one (negative : Bool) : Decimal := ⟨negative, 1, 0, smallest.size_lt, zero.scale_le⟩

/-- An order of the largest decimal, one and minus one. -/
def largestAndBack : PurchaseOrder :=
  ⟨.ofNat 1, "PO-1", false, [lineOf largest, lineOf (one false), lineOf (one true)]⟩

/-- **Totals that depend on the arrangement.** From eight on, five units of the last place are
rounded off twice; from the other end they add up to ten units, which stay. From the largest
decimal on, one is too much; from the other end it is taken back first. -/
theorem amount_reversed_ne :
    ((PurchaseOrderRow.new .standard eightAndCrumbs).amount =
        some ⟨false, 8 * tenTo 27, 27, by decide, by decide⟩ ∧
      (PurchaseOrderRow.new .standard
          (eightAndCrumbs.withLines eightAndCrumbs.lineItems.reverse)).amount =
        some ⟨false, 8 * tenTo 27 + 1, 27, by decide, by decide⟩) ∧
    ((PurchaseOrderRow.new .standard largestAndBack).amount = none ∧
      (PurchaseOrderRow.new .standard
          (largestAndBack.withLines largestAndBack.lineItems.reverse)).amount = some largest) ∧
    ¬ ∀ (o : PurchaseOrder) (lines : List LineItem), lines.Perm o.lineItems →
      (PurchaseOrderRow.new .standard (o.withLines lines)).amount.map value =
        (PurchaseOrderRow.new .standard o).amount.map value := by
  have height : (PurchaseOrderRow.new .standard eightAndCrumbs).amount =
      some ⟨false, 8 * tenTo 27, 27, by decide, by decide⟩ := by decide +kernel
  have hreversed : (PurchaseOrderRow.new .standard
      (eightAndCrumbs.withLines eightAndCrumbs.lineItems.reverse)).amount =
        some ⟨false, 8 * tenTo 27 + 1, 27, by decide, by decide⟩ := by decide +kernel
  refine ⟨⟨height, hreversed⟩, ⟨by decide +kernel, by decide +kernel⟩, fun hall => ?_⟩
  have hsame := hall eightAndCrumbs _ (List.reverse_perm _)
  -- one total would be two different numbers
  rw [height, hreversed, Option.map_some, Option.map_some, Option.some.injEq] at hsame
  norm_num [value, coefficient, tenTo] at hsame

end DataGrid
