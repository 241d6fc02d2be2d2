/-!
# Rounding quotients

## Main definitions

* `roundEven`, `roundUp`: the whole number nearest to a quotient, and of two that are equally
  near the even one or the larger one

## Main results

* `roundEven_le`, `roundUp_le`: rounding a quotient by two or more never exceeds the dividend
-/

namespace DataGrid.Numeric

/-- **Rounding.** The whole number nearest to `n / d`; halfway between two, the even one. -/
def roundEven (n d : Nat) : Nat :=
  let q := n / d
  let r := n % d
  if d < 2 * r ∨ (2 * r = d ∧ q % 2 = 1) then q + 1 else q

theorem roundEven_le {n d : Nat} (hd : 2 ≤ d) : roundEven n d ≤ n := by
  have hdiv := Nat.div_add_mod n d
  have hmul : 2 * (n / d) ≤ d * (n / d) := Nat.mul_le_mul_right _ hd
  simp only [roundEven]
  split <;> omega

/-- The whole number nearest to `n / d`; halfway between two, the larger one. -/
def roundUp (n d : Nat) : Nat := (2 * n + d) / (2 * d)

theorem roundUp_le {n d : Nat} (hd : 2 ≤ d) : roundUp n d ≤ n := by
  rcases Nat.eq_zero_or_pos n with rfl | hn
  · rw [roundUp, Nat.mul_zero, Nat.zero_add]
    exact Nat.le_of_eq (Nat.div_eq_of_lt (by omega))
  · have hone : d ≤ d * n := Nat.le_mul_of_pos_right d hn
    have htwo : 2 * n ≤ d * n := Nat.mul_le_mul_right n hd
    exact Nat.div_le_of_le_mul (by rw [Nat.mul_assoc]; omega)

end DataGrid.Numeric
