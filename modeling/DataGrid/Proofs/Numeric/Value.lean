import DataGrid.Numeric.Decimal
import Mathlib.Algebra.Order.Field.Basic
import Mathlib.Data.Rat.Cast.Order
import Mathlib.Tactic.Ring

/-!
# The numbers that decimals stand for

A decimal stands for its coefficient divided by a power of ten. Only some numbers have a
decimal: a multiple of a power of ten up to the scale can be taken off a coefficient, and what
is left has to be below the limit.

## Main definitions

* `Decimal.value`: the number that a decimal stands for
* `Decimal.Representable`: numbers that have a decimal

## Main results

* `Decimal.value_eq_coefficientAt`: the same number at a larger scale
* `Decimal.representable_iff`: which fractions have a decimal
-/

namespace DataGrid.Numeric

theorem tenTo_add (a b : Nat) : tenTo (a + b) = tenTo a * tenTo b := Nat.pow_add 10 a b

theorem tenTo_sub_mul {a b : Nat} (h : b ≤ a) : tenTo (a - b) * tenTo b = tenTo a := by
  rw [← tenTo_add, Nat.sub_add_cancel h]

theorem tenTo_dvd {a b : Nat} (h : b ≤ a) : tenTo b ∣ tenTo a :=
  ⟨tenTo (a - b), by rw [Nat.mul_comm, tenTo_sub_mul h]⟩

theorem cast_tenTo_pos (k : Nat) : (0 : ℚ) < tenTo k := Nat.cast_pos.mpr (tenTo_pos k)

theorem cast_tenTo_ne_zero (k : Nat) : (tenTo k : ℚ) ≠ 0 := (cast_tenTo_pos k).ne'

namespace Decimal

variable {d : Decimal}

/-- **Value.** The number that a decimal stands for. -/
def value (d : Decimal) : ℚ := d.coefficient / tenTo d.scale

/-- **Representable numbers.** Some decimal stands for the number. -/
def Representable (q : ℚ) : Prop := ∃ d : Decimal, d.value = q

theorem natAbs_coefficient (d : Decimal) : d.coefficient.natAbs = d.size := by
  rw [coefficient]
  split <;> simp

theorem abs_value (d : Decimal) : |d.value| = d.size / tenTo d.scale := by
  rw [value, abs_div, Nat.abs_cast, ← Int.cast_abs, ← Int.natCast_natAbs, natAbs_coefficient]
  rfl

/-- The factor that a sign stands for. -/
def signFactor (negative : Bool) : ℤ := if negative then -1 else 1

theorem signFactor_mul_natAbs (n : ℤ) : signFactor (n < 0) * n.natAbs = n := by
  rw [signFactor]
  split_ifs with h
  · have := of_decide_eq_true h
    omega
  · have := of_decide_eq_false (Bool.eq_false_of_not_eq_true h)
    omega

theorem value_eq_signFactor (d : Decimal) :
    d.value = (signFactor d.negative * d.size : ℤ) / tenTo d.scale := by
  rw [value, coefficient, signFactor]
  split_ifs <;> simp

@[simp] theorem value_zero : zero.value = 0 := by
  simp [value, coefficient, zero]

theorem value_eq_zero_of_size (h : d.size = 0) : d.value = 0 := by
  simp [value, coefficient, h]

/-- The same number at a larger scale. -/
theorem value_eq_coefficientAt {scale : Nat} (h : d.scale ≤ scale) :
    d.value = d.coefficientAt scale / tenTo scale := by
  have hpos := cast_tenTo_ne_zero (scale - d.scale)
  rw [value, coefficientAt, ← tenTo_sub_mul h]
  push_cast
  rw [mul_comm (tenTo (scale - d.scale) : ℚ), mul_div_mul_right _ _ hpos]

/-! ## Representable fractions -/

/-- A decimal for a fraction is a coefficient without some of its final zeros. -/
theorem exists_dvd_of_value_eq {n : ℤ} {scale : Nat} (h : d.value = n / tenTo scale) :
    ∃ k ≤ scale, tenTo k ∣ n.natAbs ∧ n.natAbs / tenTo k < twoTo 96 := by
  -- the two fractions as one equation of whole numbers
  have hcross : d.size * tenTo scale = n.natAbs * tenTo d.scale := by
    have habs := congrArg abs h
    rw [abs_value, abs_div, Nat.abs_cast, ← Int.cast_abs, ← Int.natCast_natAbs,
      div_eq_div_iff (cast_tenTo_ne_zero _) (cast_tenTo_ne_zero _)] at habs
    exact_mod_cast habs
  rcases Nat.le_total d.scale scale with hle | hle
  · -- the zeros beyond the scale of the decimal can be taken off
    refine ⟨scale - d.scale, Nat.sub_le _ _, ?_⟩
    have hn : n.natAbs = d.size * tenTo (scale - d.scale) := by
      apply Nat.eq_of_mul_eq_mul_right (tenTo_pos d.scale)
      rw [← hcross, Nat.mul_assoc, tenTo_sub_mul hle]
    rw [hn, Nat.mul_div_cancel _ (tenTo_pos _)]
    exact ⟨⟨d.size, Nat.mul_comm _ _⟩, d.size_lt⟩
  · -- the decimal itself ends in zeros, so the coefficient is even smaller than its own
    refine ⟨0, Nat.zero_le _, one_dvd _, ?_⟩
    have hn : d.size = n.natAbs * tenTo (d.scale - scale) := by
      apply Nat.eq_of_mul_eq_mul_right (tenTo_pos scale)
      rw [hcross, Nat.mul_assoc, tenTo_sub_mul hle]
    have hlt := d.size_lt
    have := Nat.le_mul_of_pos_right n.natAbs (tenTo_pos (d.scale - scale))
    rw [show tenTo 0 = 1 from rfl, Nat.div_one]
    omega

/-- **Representable fractions.** A fraction has a decimal just where its numerator is below the
limit when some of its final zeros are taken off, as many as there are places at most. -/
theorem representable_iff {n : ℤ} {scale : Nat} (hscale : scale ≤ 28) :
    Representable (n / tenTo scale) ↔
      ∃ k ≤ scale, tenTo k ∣ n.natAbs ∧ n.natAbs / tenTo k < twoTo 96 := by
  constructor
  · rintro ⟨d, hd⟩
    exact exists_dvd_of_value_eq hd
  · -- what is left of the numerator is the size, at the scale that is left
    rintro ⟨k, hk, ⟨c, hc⟩, hlt⟩
    rw [hc, Nat.mul_div_cancel_left _ (tenTo_pos k)] at hlt
    refine ⟨⟨decide (n < 0), c, scale - k, hlt, by omega⟩, ?_⟩
    have hn : n = signFactor (n < 0) * c * tenTo k := by
      conv_lhs => rw [← signFactor_mul_natAbs n, hc]
      push_cast
      ring
    rw [value_eq_signFactor, div_eq_div_iff (cast_tenTo_ne_zero _) (cast_tenTo_ne_zero _)]
    conv_rhs => rw [hn]
    rw [← tenTo_sub_mul hk]
    push_cast
    ring

end Decimal

end DataGrid.Numeric
