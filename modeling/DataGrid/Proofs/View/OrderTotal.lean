import DataGrid.Proofs.Numeric.Sum
import DataGrid.View.PurchaseOrder

/-!
# Totals of purchase orders

A total is added up from the left, and each addition may round. What the additions round off in
all is what a total differs from the exact one by.

## Main definitions

* `PurchaseOrder.amounts`, `PurchaseOrder.exactTotal`: the amounts that are added, and their sum
* `additions`: the additions that a total is made of
* `roundOff`: what an addition adds to the exact sum

## Main results

* `roundOff_eq_zero_iff`: an addition is exact just where the exact sum has a decimal
* `foldlM_add_value`, `foldlM_add_eq_none_iff`: a total and its round-offs, and missing totals
* `exists_foldlM_add`: a total is there, and exact, if all exact sums on the way have decimals
* `amount_value_eq_exactTotal_iff`: totals of orders
* `amount_of_tenAndSmallest`: an order whose total is rounded
-/

namespace DataGrid

open Numeric Numeric.Decimal

/-! ## Additions -/

/-- The additions that a total is made of: each running total with the amount that is added. -/
def additions (total : Decimal) : List Decimal → List (Decimal × Decimal)
  | [] => []
  | amount :: rest =>
    (total, amount) ::
      match total.add amount with
      | some next => additions next rest
      | none => []

/-- **Round-off.** What an addition adds to the exact sum. -/
def roundOff (step : Decimal × Decimal) : ℚ :=
  match step.1.add step.2 with
  | some sum => sum.value - (step.1.value + step.2.value)
  | none => 0

theorem roundOff_of_add {x y sum : Decimal} (h : x.add y = some sum) :
    roundOff (x, y) = sum.value - (x.value + y.value) := by
  simp only [roundOff, h]

/-- An addition rounds nothing off just where the exact sum has a decimal. -/
theorem roundOff_eq_zero_iff {x y sum : Decimal} (h : x.add y = some sum) :
    roundOff (x, y) = 0 ↔ Representable (x.value + y.value) := by
  rw [roundOff_of_add h, sub_eq_zero, add_value_eq_iff h]

theorem additions_of_add {total amount next : Decimal} (h : total.add amount = some next)
    (rest : List Decimal) :
    additions total (amount :: rest) = (total, amount) :: additions next rest := by
  simp only [additions, h]

/-! ## Totals -/

/-- A total is the exact one and all round-offs. -/
theorem foldlM_add_value {amounts : List Decimal} {total d : Decimal}
    (h : amounts.foldlM Decimal.add total = some d) :
    d.value = total.value + (amounts.map value).sum +
      ((additions total amounts).map roundOff).sum := by
  -- Induction on the amounts: the running total takes up the round-off of each addition.
  induction amounts generalizing total with
  | nil =>
    obtain rfl := Option.some.inj h
    simp [additions]
  | cons amount rest ih =>
    obtain ⟨next, hnext, hrest⟩ := Option.bind_eq_some_iff.mp h
    rw [ih hrest, additions_of_add hnext, List.map_cons, List.map_cons, List.sum_cons,
      List.sum_cons, roundOff_of_add hnext]
    ring

/-- In a total that is there, every addition has a result. -/
theorem exists_add_of_mem_additions {amounts : List Decimal} {total d : Decimal}
    (h : amounts.foldlM Decimal.add total = some d) {step : Decimal × Decimal}
    (hstep : step ∈ additions total amounts) : ∃ sum, step.1.add step.2 = some sum := by
  induction amounts generalizing total with
  | nil => cases hstep
  | cons amount rest ih =>
    obtain ⟨next, hnext, hrest⟩ := Option.bind_eq_some_iff.mp h
    rw [additions_of_add hnext] at hstep
    rcases List.mem_cons.mp hstep with rfl | hstep
    · -- the first addition
      exact ⟨next, hnext⟩
    · exact ih hrest hstep

/-- A total is missing just where the result of an addition is. -/
theorem foldlM_add_eq_none_iff {amounts : List Decimal} {total : Decimal} :
    amounts.foldlM Decimal.add total = none ↔
      ∃ step ∈ additions total amounts, step.1.add step.2 = none := by
  constructor
  · intro h
    induction amounts generalizing total with
    | nil => cases h
    | cons amount rest ih =>
      cases hnext : total.add amount with
      | none =>
        -- the first addition has no result, and no other one is made
        exact ⟨(total, amount), List.mem_cons_self, hnext⟩
      | some next =>
        rw [List.foldlM_cons, hnext] at h
        obtain ⟨step, hstep, hnone⟩ := ih h
        exact ⟨step, additions_of_add hnext rest ▸ List.mem_cons_of_mem _ hstep, hnone⟩
  · rintro ⟨step, hstep, hnone⟩
    refine Option.eq_none_iff_forall_ne_some.mpr fun d hd => ?_
    obtain ⟨sum, hsum⟩ := exists_add_of_mem_additions hd hstep
    rw [hsum] at hnone
    cases hnone

/-- **Exact totals.** A total is there, and exact, if all exact sums on the way have decimals. -/
theorem exists_foldlM_add {amounts : List Decimal} {total : Decimal}
    (h : ∀ part, part <+: amounts → Representable (total.value + (part.map value).sum)) :
    ∃ d, amounts.foldlM Decimal.add total = some d ∧
      d.value = total.value + (amounts.map value).sum := by
  induction amounts generalizing total with
  | nil => exact ⟨total, rfl, by simp⟩
  | cons amount rest ih =>
    -- the first sum has a decimal, so the first addition is exact ...
    have hfirst := h [amount] (List.prefix_append [amount] rest)
    rw [List.map_singleton, List.sum_singleton] at hfirst
    obtain ⟨next, hnext, hvalue⟩ := exists_add_of_representable hfirst
    -- ... and the sums from there on are sums from the start
    have hrest : ∀ part, part <+: rest →
        Representable (next.value + (part.map value).sum) := fun part hpart => by
      have := h (amount :: part) ((List.prefix_cons_inj amount).mpr hpart)
      rwa [List.map_cons, List.sum_cons, ← add_assoc, ← hvalue] at this
    obtain ⟨d, hd, hsum⟩ := ih hrest
    refine ⟨d, ?_, ?_⟩
    · rw [List.foldlM_cons, hnext]
      exact hd
    · rw [hsum, hvalue, List.map_cons, List.sum_cons, add_assoc]

/-! ## Orders -/

namespace PurchaseOrder

/-- The amounts of the lines that have one. -/
def amounts (o : PurchaseOrder) : List Decimal := o.lineItems.filterMap (·.amount)

/-- **Exact total.** The sum of the amounts; a line without an amount counts as zero. -/
def exactTotal (o : PurchaseOrder) : ℚ :=
  (o.lineItems.map fun line => (line.amount.map value).getD 0).sum

theorem exactTotal_eq (o : PurchaseOrder) : o.exactTotal = (o.amounts.map value).sum := by
  rw [exactTotal, amounts]
  induction o.lineItems with
  | nil => rfl
  | cons line rest ih =>
    rw [List.map_cons, List.sum_cons, ih, List.filterMap_cons]
    cases line.amount <;> simp

end PurchaseOrder

/-- **Totals of orders.** A total is exact just where its additions round nothing off in all, and
an addition rounds nothing off just where the exact sum has a decimal. A total is missing just
where a sum on the way is rounded beyond the limit. If all exact sums on the way have decimals,
the total is there and exact. -/
theorem amount_value_eq_exactTotal_iff (routes : Routes) (o : PurchaseOrder) :
    (∀ d, (PurchaseOrderRow.new routes o).amount = some d →
        (d.value = o.exactTotal ↔ ((additions zero o.amounts).map roundOff).sum = 0) ∧
          ∀ step ∈ additions zero o.amounts,
            roundOff step = 0 ↔ Representable (step.1.value + step.2.value)) ∧
      ((PurchaseOrderRow.new routes o).amount = none ↔
        ∃ step ∈ additions zero o.amounts,
          (twoTo 96 - 1 / 2 : ℚ) ≤ |step.1.value + step.2.value|) ∧
      ((∀ part, part <+: o.amounts → Representable (part.map value).sum) →
        ∃ d, (PurchaseOrderRow.new routes o).amount = some d ∧ d.value = o.exactTotal) := by
  have hamount : (PurchaseOrderRow.new routes o).amount =
      o.amounts.foldlM Decimal.add zero := rfl
  rw [hamount]
  refine ⟨fun d hd => ⟨?_, fun step hstep => ?_⟩, ?_, fun hparts => ?_⟩
  · rw [foldlM_add_value hd, value_zero, zero_add, ← o.exactTotal_eq, add_eq_left]
  · obtain ⟨sum, hsum⟩ := exists_add_of_mem_additions hd hstep
    exact roundOff_eq_zero_iff hsum
  · simp only [foldlM_add_eq_none_iff, add_eq_none_iff]
  · have hzero : ∀ part, part <+: o.amounts →
        Representable (zero.value + (part.map value).sum) := fun part hpart => by
      rw [value_zero, zero_add]
      exact hparts part hpart
    obtain ⟨d, hd, hvalue⟩ := exists_foldlM_add hzero
    exact ⟨d, hd, by rw [hvalue, value_zero, zero_add, o.exactTotal_eq]⟩

/-- Ten, with one place. -/
def ten : Decimal := ⟨false, 100, 1, by decide, by decide⟩

/-- The smallest positive decimal. -/
def smallest : Decimal := ⟨false, 1, 28, by decide, by decide⟩

/-- A line of an amount. -/
def lineOf (amount : Decimal) : LineItem where
  id := .ofNat 2
  refId := "L-2"
  orderRefId := "PO-1"
  currency := none
  amount := some amount
  amountReceived := none
  remainingAmount := none
  isOpex := false
  isCancelled := false
  shared := false
  associated := false
  costCenter := none

/-- An order of ten and the smallest positive decimal. -/
def tenAndSmallest : PurchaseOrder := ⟨.ofNat 1, "PO-1", false, [lineOf ten, lineOf smallest]⟩

/-- Ten, with as many places as fit. -/
def tenWithPlaces : Decimal := ⟨false, tenTo 28, 27, by decide, by decide⟩

/-- The total of ten and the smallest positive decimal is ten. -/
theorem amount_of_tenAndSmallest :
    (PurchaseOrderRow.new .standard tenAndSmallest).amount = some tenWithPlaces ∧
      tenWithPlaces.value = 10 ∧ tenAndSmallest.exactTotal = 10 + 1 / tenTo 28 ∧
        tenWithPlaces.value ≠ tenAndSmallest.exactTotal := by
  have hten : tenWithPlaces.value = 10 := by
    norm_num [tenWithPlaces, value, coefficient, tenTo]
  have htotal : tenAndSmallest.exactTotal = 10 + 1 / tenTo 28 := by
    norm_num [PurchaseOrder.exactTotal, tenAndSmallest, lineOf, ten, smallest, value, coefficient,
      tenTo]
  refine ⟨by decide +kernel, hten, htotal, ?_⟩
  rw [hten, htotal]
  norm_num [tenTo]

end DataGrid
