import DataGrid.Numeric.Rounding
import Mathlib.Tactic.Linarith
import Mathlib.Tactic.Ring

/-!
# Rounded quotients

A quotient that is rounded half to even is at most half a unit away from the exact one, and
rounding changes nothing just where the division leaves no rest.

## Main results

* `roundEven_mul_eq_iff`: rounding is exact just where the division is
* `abs_roundEven_mul_sub_le`: the error is at most half a unit
* `le_roundEven_iff`: which quotients are rounded to an even bound or more
-/

namespace DataGrid.Numeric

variable {n d : Nat}

theorem roundEven_eq_or (n d : Nat) : roundEven n d = n / d ∨ roundEven n d = n / d + 1 := by
  simp only [roundEven]
  split
  · exact .inr rfl
  · exact .inl rfl

/-- A quotient without rest is kept. -/
theorem roundEven_mul (c : Nat) (hd : 0 < d) : roundEven (c * d) d = c := by
  have hrest : c * d % d = 0 := Nat.mul_mod_left c d
  have hquotient : c * d / d = c := Nat.mul_div_cancel c hd
  simp only [roundEven, hrest, hquotient]
  rw [if_neg (by omega)]

/-- **Exactness.** Rounding keeps a quotient just where the division leaves no rest. -/
theorem roundEven_mul_eq_iff (hd : 0 < d) : roundEven n d * d = n ↔ d ∣ n := by
  constructor
  · intro h
    exact ⟨roundEven n d, by rw [Nat.mul_comm, h]⟩
  · rintro ⟨c, rfl⟩
    rw [Nat.mul_comm d c, roundEven_mul c hd]

/-- **Rounding error.** A rounded quotient is at most half a unit away from the exact one. -/
theorem abs_roundEven_mul_sub_le (n : Nat) (hd : 0 < d) :
    |(roundEven n d * d : ℤ) - n| * 2 ≤ d := by
  have hdiv : n / d * d + n % d = n := Nat.div_add_mod' n d
  have hrest : n % d < d := Nat.mod_lt n hd
  -- rounded up, the rest is at least half a unit; rounded down, at most
  have hround : 2 * (roundEven n d * d) ≤ 2 * n + d ∧ 2 * n ≤ 2 * (roundEven n d * d) + d := by
    simp only [roundEven]
    split
    · rw [Nat.add_mul, Nat.one_mul]
      omega
    · omega
  rcases abs_cases ((roundEven n d * d : ℤ) - n) with ⟨habs, -⟩ | ⟨habs, -⟩
  · rw [habs]
    omega
  · rw [habs]
    omega

/-- **Reaching a bound.** A quotient is rounded to an even bound or more just where it is at
most half a unit below the bound. -/
theorem le_roundEven_iff {m : Nat} (hd : 0 < d) (hm : 0 < m) (heven : m % 2 = 0) :
    m ≤ roundEven n d ↔ (2 * m - 1) * d ≤ 2 * n := by
  obtain ⟨k, rfl⟩ : ∃ k, m = k + 1 := ⟨m - 1, by omega⟩
  have hbound : (2 * (k + 1) - 1) * d = 2 * (k * d) + d := by
    rw [show 2 * (k + 1) - 1 = 2 * k + 1 by omega]
    ring
  have hdiv : n / d * d + n % d = n := Nat.div_add_mod' n d
  have hrest : n % d < d := Nat.mod_lt n hd
  rw [hbound]
  rcases Nat.lt_trichotomy (n / d) k with hlt | heq | hgt
  · -- the quotient is at least one unit too small
    have hmul : n / d * d + d ≤ k * d := by
      rw [← Nat.succ_mul]
      exact Nat.mul_le_mul_right d hlt
    have := roundEven_eq_or n d
    constructor
    · omega
    · omega
  · -- the rest decides, and at half a unit the odd quotient is rounded up
    subst heq
    simp only [roundEven]
    split <;> omega
  · -- the quotient is large enough without its rest
    have hmul : k * d + d ≤ n / d * d := by
      rw [← Nat.succ_mul]
      exact Nat.mul_le_mul_right d hgt
    have := roundEven_eq_or n d
    constructor
    · omega
    · omega

end DataGrid.Numeric
