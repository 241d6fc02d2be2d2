import DataGrid.Proofs.Numeric.Difference
import DataGrid.Proofs.View.LineOrder
import DataGrid.View.LineItem

/-!
# Amounts within the limit

Amounts are added and subtracted exactly as long as their sizes, added up in units of the last place
of all, stay below the limit of decimals. No sum on the way can then be larger, in whatever order the
amounts come, so that no digit is ever dropped.

## Main definitions

* `PurchaseOrder.places`: the places of the amount that has the most

## Main results

* `Decimal.exists_sub_of_small`: a difference of two small decimals is there, and exact
* `PurchaseOrder.exists_amount_of_small`: so is the total of an order with small amounts
* `amounts_exactWithinLimit`: totals of orders and open amounts of line items
-/

namespace DataGrid

open Numeric Numeric.Decimal

/-! ## Differences -/

namespace Numeric.Decimal

variable {x y : Decimal}

/-- A difference is there, and exact, where the exact difference has a decimal. -/
theorem exists_sub_of_representable (h : Representable (x.value - y.value)) :
    ∃ z, x.sub y = some z ∧ z.value = x.value - y.value := by
  rw [sub_eq_add, ← value_add_value_neg]
  rw [← value_add_value_neg] at h
  exact exists_add_of_representable h

/-- **Small differences.** Two decimals are subtracted exactly if their sizes, in units of the last
place of both, are together below the limit. -/
theorem exists_sub_of_small
    (hsmall : (|x.value| + |y.value|) * tenTo (max x.scale y.scale) < twoTo 96) :
    ∃ z, x.sub y = some z ∧ z.value = x.value - y.value := by
  apply exists_sub_of_representable
  -- the difference is the sum of two amounts of that size
  have hplaces : ∀ a ∈ [x, y.neg], a.scale ≤ max x.scale y.scale := by
    intro a ha
    rcases List.mem_pair.mp ha with rfl | rfl
    · exact Nat.le_max_left _ _
    · rw [scale_neg]
      exact Nat.le_max_right _ _
  have hsum := representable_sum (max_scale_le x y) hplaces (by
    simpa only [List.map_cons, List.map_nil, List.sum_cons, List.sum_nil, add_zero, value_neg,
      abs_neg] using hsmall)
  simpa only [List.map_cons, List.map_nil, List.sum_cons, List.sum_nil, add_zero,
    value_add_value_neg] using hsum

end Numeric.Decimal

/-! ## Totals -/

namespace PurchaseOrder

variable (o : PurchaseOrder)

/-- **Places.** As many as the amount has that has the most. -/
def places : Nat := ((o.amounts.map (·.scale)).max?).getD 0

theorem scale_le_places {a : Decimal} (ha : a ∈ o.amounts) : a.scale ≤ o.places :=
  List.le_max?_getD_of_mem (List.mem_map_of_mem ha)

theorem places_le : o.places ≤ 28 := by
  rw [places]
  cases hmax : (o.amounts.map (·.scale)).max? with
  | none => exact Nat.zero_le _
  | some places =>
    -- the largest scale is that of an amount
    obtain ⟨a, -, rfl⟩ := List.mem_map.mp (List.max?_mem hmax)
    exact a.scale_le

/-- **Small totals.** Amounts whose sizes are below the limit, in units of the last place of all,
have the exact total in every arrangement of the lines. -/
theorem exists_amount_of_small (routes : Routes) {lines : List LineItem}
    (hperm : lines.Perm o.lineItems)
    (hsmall : (o.amounts.map (|·.value|)).sum * tenTo o.places < twoTo 96) :
    ∃ total, (PurchaseOrderRow.new routes (o.withLines lines)).amount = some total ∧
      total.value = o.exactTotal := by
  rw [o.exactTotal_eq]
  exact exists_foldlM_add_of_perm (amounts_withLines_perm hperm) o.places_le
    (fun _ => o.scale_le_places) hsmall

end PurchaseOrder

/-! ## Orders and line items -/

/-- A line item has a row with its open amount if that is there. -/
theorem LineItemRow.exists_forWorkOrder? {l : LineItem} {difference : Option Decimal}
    (h : openAmount? l.amount l.amountReceived = some difference) (routes : Routes)
    (entry order : Option Int64) :
    ∃ row, forWorkOrder? routes l entry order = some row ∧ row.amountOpen = difference := by
  rw [forWorkOrder?, h]
  exact ⟨_, rfl, rfl⟩

/-- **Within the limit.** If the amounts of an order are below the limit when their sizes are added
up in units of the last place of all, the order has its exact total, whatever the arrangement of its
lines. If this is so for the amount of a line item and what was received of it, the line item has a
row, and what is open is the exact difference. -/
theorem amounts_exactWithinLimit (routes : Routes) :
    (∀ (o : PurchaseOrder) (lines : List LineItem), lines.Perm o.lineItems →
      (o.amounts.map (|·.value|)).sum * tenTo o.places < twoTo 96 →
        ∃ total, (PurchaseOrderRow.new routes (o.withLines lines)).amount = some total ∧
          total.value = o.exactTotal) ∧
    ∀ (l : LineItem) (amount received : Decimal) (entry order : Option Int64),
      l.amount = some amount → l.amountReceived = some received →
      (|amount.value| + |received.value|) * tenTo (max amount.scale received.scale) < twoTo 96 →
        ∃ row difference, LineItemRow.forWorkOrder? routes l entry order = some row ∧
          row.amountOpen = some difference ∧
            difference.value = amount.value - received.value := by
  refine ⟨fun o lines => o.exists_amount_of_small routes, fun l amount received entry order hamount
    hreceived hsmall => ?_⟩
  obtain ⟨difference, hsub, hvalue⟩ := exists_sub_of_small hsmall
  have hopen : LineItemRow.openAmount? l.amount l.amountReceived = some (some difference) := by
    rw [hamount, hreceived, LineItemRow.openAmount?, hsub]
    rfl
  obtain ⟨row, hrow, hdifference⟩ := LineItemRow.exists_forWorkOrder? hopen routes entry order
  exact ⟨row, difference, hrow, hdifference, hvalue⟩

/-- A large amount with five places. -/
def largeAmount : Decimal := ⟨false, 79228162514264337593543900, 5, by decide, by decide⟩

/-- A credit with eight places, as much as there is room for beside the large amount. -/
def smallCredit : Decimal := ⟨true, 50335, 8, by decide, by decide⟩

/-- An order of the large amount and the credit. -/
def creditOrder : PurchaseOrder :=
  ⟨.ofNat 1, "PO-1", false, [lineOf largeAmount, lineOf smallCredit]⟩

/-- The line of the large amount, of which the credit was received. -/
def creditLine : LineItem := { lineOf largeAmount with amountReceived := some smallCredit }

/-- A large amount and a credit whose sizes are just below the limit in units of the last place are
added up and subtracted exactly. -/
theorem amounts_exactWithinLimit_credit :
    (creditOrder.amounts.map (|·.value|)).sum * tenTo creditOrder.places = twoTo 96 - 1 ∧
      (PurchaseOrderRow.new .standard
          (creditOrder.withLines creditOrder.lineItems.reverse)).amount.map value =
        some creditOrder.exactTotal ∧
      (|largeAmount.value| + |smallCredit.value|) *
          tenTo (max largeAmount.scale smallCredit.scale) = twoTo 96 - 1 ∧
      ∃ row difference, LineItemRow.new? .standard creditLine = some row ∧
        row.amountOpen = some difference ∧
          difference.value = 792281625142643375935.43950335 := by
  have hlarge : largeAmount.value = 792281625142643375935.439 := by
    norm_num [largeAmount, value, coefficient, tenTo]
  have hcredit : smallCredit.value = -0.00050335 := by
    norm_num [smallCredit, value, coefficient, tenTo]
  have hamounts : creditOrder.amounts = [largeAmount, smallCredit] := rfl
  have hplaces : creditOrder.places = 8 := by decide
  have htotal : (creditOrder.amounts.map (|·.value|)).sum * tenTo creditOrder.places =
      twoTo 96 - 1 := by
    rw [hamounts, hplaces]
    norm_num [hlarge, hcredit, tenTo, twoTo]
  have hdifference : (|largeAmount.value| + |smallCredit.value|) *
      tenTo (max largeAmount.scale smallCredit.scale) = twoTo 96 - 1 := by
    rw [show max largeAmount.scale smallCredit.scale = 8 from rfl]
    norm_num [hlarge, hcredit, tenTo, twoTo]
  obtain ⟨htotals, hlines⟩ := amounts_exactWithinLimit .standard
  obtain ⟨total, hamount, hvalue⟩ := htotals creditOrder _ (List.reverse_perm _)
    (by rw [htotal]; exact sub_one_lt _)
  obtain ⟨row, difference, hrow, hopen, hdiff⟩ := hlines creditLine largeAmount smallCredit none
    none rfl rfl (by rw [hdifference]; exact sub_one_lt _)
  refine ⟨htotal, ?_, hdifference, row, difference, hrow, hopen, ?_⟩
  · rw [hamount, Option.map_some, hvalue]
  · rw [hdiff, hlarge, hcredit]
    norm_num

end DataGrid
