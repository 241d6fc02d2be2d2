import DataGrid.Proofs.Numeric.Sum

/-!
# Differences of decimals

A difference is the sum with the other sign of the second operand, so it loses digits, and is
missing, just as sums are.

## Main results

* `Decimal.value_neg`: the other sign
* `Decimal.sub_eq_add`: differences are sums
* `Decimal.sub_eq_none_iff`: which differences are missing
-/

namespace DataGrid.Numeric.Decimal

variable {x y z : Decimal}

/-! ## The other sign -/

theorem size_neg (d : Decimal) : d.neg.size = d.size := by
  rw [neg]
  split <;> rfl

theorem scale_neg (d : Decimal) : d.neg.scale = d.scale := by
  rw [neg]
  split <;> rfl

theorem coefficient_neg (d : Decimal) : d.neg.coefficient = -d.coefficient := by
  rw [neg]
  split
  · -- zero has no other sign
    rename_i hzero
    simp [coefficient, hzero]
  · cases hsign : d.negative <;> simp [coefficient, hsign]

theorem coefficientAt_neg (d : Decimal) (scale : Nat) :
    d.neg.coefficientAt scale = -d.coefficientAt scale := by
  rw [coefficientAt, coefficientAt, coefficient_neg, scale_neg, Int.neg_mul]

theorem value_neg (d : Decimal) : d.neg.value = -d.value := by
  rw [value, value, coefficient_neg, scale_neg, Int.cast_neg, neg_div]

/-! ## Differences -/

/-- **Differences are sums** with the other sign of the second operand. -/
theorem sub_eq_add (x y : Decimal) : x.sub y = x.add y.neg := by
  simp only [sub, add, size_neg, scale_neg, coefficientAt_neg, Int.sub_eq_add_neg]

theorem value_add_value_neg (x y : Decimal) : x.value + y.neg.value = x.value - y.value := by
  rw [value_neg, ← sub_eq_add_neg]

/-- **Missing differences.** A difference is missing just where the exact one is rounded to the
limit or beyond even without places. -/
theorem sub_eq_none_iff (x y : Decimal) :
    x.sub y = none ↔ (twoTo 96 - 1 / 2 : ℚ) ≤ |x.value - y.value| := by
  rw [sub_eq_add, add_eq_none_iff, value_add_value_neg]

end DataGrid.Numeric.Decimal
