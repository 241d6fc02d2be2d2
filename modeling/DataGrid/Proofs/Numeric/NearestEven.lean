import DataGrid.Proofs.Numeric.Rounding
import DataGrid.Proofs.Numeric.Value
import Mathlib.Algebra.Group.Int.Even
import Mathlib.Tactic.FieldSimp
import Mathlib.Tactic.Linarith

/-!
# Rounded decimals

A decimal is rounded to the nearest number with so many places, and of two equally near ones to the
one that ends in an even digit. The normal form of a decimal is the same number without zeros at its
end.

## Main definitions

* `IsNearestEven`: the number that a number is rounded to
* `Decimal.IsNormal`: decimals without zeros at their end

## Main results

* `IsNearestEven.unique`: a number is rounded to one number
* `Decimal.isNearestEven_round`: what a decimal is rounded to
* `Decimal.value_normalize`, `Decimal.isNormal_normalize`: the normal form
-/

namespace DataGrid.Numeric

/-- **Half to even.** A number with so many places that is at most half a unit of the last one away.
Where it is half a unit away, its last digit is even. -/
def IsNearestEven (places : Nat) (q r : ℚ) : Prop :=
  ∃ n : ℤ, r = n / tenTo places ∧ 2 * |q * tenTo places - n| ≤ 1 ∧
    (2 * |q * tenTo places - n| = 1 → Even n)

namespace IsNearestEven

variable {places : Nat} {q r : ℚ}

/-- A number is rounded to one number only. -/
theorem unique {r' : ℚ} (h : IsNearestEven places q r) (h' : IsNearestEven places q r') :
    r = r' := by
  obtain ⟨n, rfl, hn, heven⟩ := h
  obtain ⟨n', rfl, hn', heven'⟩ := h'
  have hnear : |(n : ℚ) - n'| ≤ |q * tenTo places - n'| + |q * tenTo places - n| := by
    have htriangle := abs_sub_le (n : ℚ) (q * tenTo places) n'
    rw [abs_sub_comm (n : ℚ) (q * tenTo places)] at htriangle
    linarith
  by_contra hne
  have hdistinct : n ≠ n' := by
    rintro rfl
    exact hne rfl
  -- different whole numbers are one unit apart at least, so both are half a unit away and even
  have hapart : (1 : ℚ) ≤ |(n : ℚ) - n'| := by
    rw [← Int.cast_sub, ← Int.cast_abs]
    exact_mod_cast Int.one_le_abs (sub_ne_zero.mpr hdistinct)
  obtain ⟨k, hk⟩ := heven (by linarith)
  obtain ⟨k', hk'⟩ := heven' (by linarith)
  have hone : |(n : ℚ) - n'| = 1 := by linarith
  rw [← Int.cast_sub, ← Int.cast_abs] at hone
  have hone : |n - n'| = 1 := by exact_mod_cast hone
  rcases (abs_eq zero_le_one).mp hone with hone | hone
  · omega
  · omega

/-- A number with so many places is rounded to itself. -/
theorem refl (n : ℤ) (places : Nat) :
    IsNearestEven places (n / tenTo places) (n / tenTo places) := by
  have hexact : (n / tenTo places : ℚ) * tenTo places - n = 0 := by
    rw [div_mul_cancel₀ _ (cast_tenTo_ne_zero places), sub_self]
  refine ⟨n, rfl, ?_, ?_⟩
  · rw [hexact, abs_zero]
    norm_num
  · rw [hexact, abs_zero]
    norm_num

/-- The other sign is kept. -/
theorem neg (h : IsNearestEven places q r) : IsNearestEven places (-q) (-r) := by
  obtain ⟨n, rfl, hn, heven⟩ := h
  have hsame : |-q * tenTo places - (-n : ℤ)| = |q * tenTo places - n| := by
    rw [← abs_neg]
    push_cast
    ring_nf
  refine ⟨-n, by push_cast; ring, ?_, ?_⟩
  · rwa [hsame]
  · rw [hsame]
    exact fun htie => (heven htie).neg

end IsNearestEven

/-- Halfway between two whole numbers a quotient is rounded to the even one. -/
theorem even_roundEven {n d : Nat} (hd : 0 < d) (htie : |(roundEven n d * d : ℤ) - n| * 2 = d) :
    Even (roundEven n d) := by
  have hdiv : n / d * d + n % d = n := Nat.div_add_mod' n d
  have hrest : n % d < d := Nat.mod_lt n hd
  have habs := abs_cases ((roundEven n d * d : ℤ) - n)
  rw [Nat.even_iff]
  by_cases hup : d < 2 * (n % d) ∨ (2 * (n % d) = d ∧ n / d % 2 = 1)
  · -- rounded up from the half, the quotient was odd
    have hround : roundEven n d = n / d + 1 := if_pos hup
    have hproduct : roundEven n d * d + n % d = n + d := by
      rw [hround, Nat.add_mul]
      omega
    omega
  · have hround : roundEven n d = n / d := if_neg hup
    have hproduct : roundEven n d * d + n % d = n := by
      rw [hround]
      exact hdiv
    omega

/-- A quotient is rounded to the nearest whole number, and to the even one of two. -/
theorem isNearestEven_roundEven (n places : Nat) {k : Nat} :
    IsNearestEven places (n / tenTo (places + k)) (roundEven n (tenTo k) / tenTo places) := by
  have hscaled : (n / tenTo (places + k) : ℚ) * tenTo places = n / tenTo k := by
    have hplaces := cast_tenTo_ne_zero places
    have hk := cast_tenTo_ne_zero k
    rw [tenTo_add]
    push_cast
    field_simp
  have herror : 2 * |(n / tenTo k : ℚ) - (roundEven n (tenTo k) : ℤ)| * tenTo k =
      (|(roundEven n (tenTo k) * tenTo k : ℤ) - n| * 2 : ℤ) := by
    have hk := cast_tenTo_pos k
    push_cast
    rw [abs_sub_comm, mul_assoc, ← abs_of_pos hk, ← abs_mul, abs_of_pos hk, sub_mul,
      div_mul_cancel₀ _ hk.ne', mul_comm]
  refine ⟨roundEven n (tenTo k), by push_cast; rfl, ?_, ?_⟩
  · rw [hscaled]
    have hbound := abs_roundEven_mul_sub_le n (tenTo_pos k)
    have hbound : ((|(roundEven n (tenTo k) * tenTo k : ℤ) - n| * 2 : ℤ) : ℚ) ≤ tenTo k := by
      exact_mod_cast hbound
    rw [← herror] at hbound
    exact le_of_mul_le_mul_right (by linarith) (cast_tenTo_pos k)
  · rw [hscaled]
    intro htie
    rw [htie, one_mul] at herror
    have hhalf : |(roundEven n (tenTo k) * tenTo k : ℤ) - n| * 2 = tenTo k := by
      exact_mod_cast herror.symm
    exact (Int.even_coe_nat _).mpr (even_roundEven (tenTo_pos k) hhalf)

namespace Decimal

/-! ## Fewer places -/

theorem scale_round_le (d : Decimal) (places : Nat) : (d.round places).scale ≤ places := by
  rw [round]
  split
  · exact Nat.le_refl places
  · exact Nat.le_of_not_lt ‹_›

/-- **Rounding.** A decimal is rounded half to even. -/
theorem isNearestEven_round (d : Decimal) (places : Nat) :
    IsNearestEven places d.value (d.round places).value := by
  rw [round]
  split
  · rename_i hlt
    -- the sign of a number that is rounded to zero makes no difference
    have hvalue : ∀ (h₁ : roundEven d.size (tenTo (d.scale - places)) < twoTo 96)
        (h₂ : places ≤ 28), value ⟨d.negative && roundEven d.size (tenTo (d.scale - places)) != 0,
          roundEven d.size (tenTo (d.scale - places)), places, h₁, h₂⟩ =
        signFactor d.negative * (roundEven d.size (tenTo (d.scale - places)) / tenTo places) := by
      intro h₁ h₂
      rw [value_eq_signFactor]
      by_cases hzero : roundEven d.size (tenTo (d.scale - places)) = 0
      · simp [hzero]
      · have hflag : (roundEven d.size (tenTo (d.scale - places)) != 0) = true := by
          simpa using hzero
        rw [hflag, Bool.and_true]
        push_cast
        rw [mul_div_assoc]
    have hsize := isNearestEven_roundEven d.size places (k := d.scale - places)
    rw [Nat.add_sub_cancel' hlt.le] at hsize
    rw [hvalue, value_eq_signFactor]
    push_cast
    rw [mul_div_assoc]
    cases d.negative with
    | false => simpa [signFactor] using hsize
    | true => simpa [signFactor] using hsize.neg
  · rename_i hle
    rw [value_eq_coefficientAt (Nat.le_of_not_lt hle)]
    exact .refl _ _

/-! ## The normal form -/

/-- **Normal decimals.** Their places do not end in a zero, and zero has no minus sign. -/
structure IsNormal (d : Decimal) : Prop where
  scale_eq_zero_or : d.scale = 0 ∨ d.size % 10 ≠ 0
  not_negative : d.size = 0 → d.negative = false

/-- Zeros are taken off as long as there are any. -/
theorem trimZeros_eq (n scale : Nat) :
    ∃ zeros ≤ scale, (trimZeros n scale).2 = scale - zeros ∧
      n = (trimZeros n scale).1 * tenTo zeros ∧
        ((trimZeros n scale).2 = 0 ∨ (trimZeros n scale).1 % 10 ≠ 0) := by
  induction scale generalizing n with
  | zero => exact ⟨0, Nat.le_refl 0, rfl, (Nat.mul_one n).symm, .inl rfl⟩
  | succ scale ih =>
    rw [trimZeros]
    split
    · rename_i hdvd
      obtain ⟨zeros, hzeros, hscale, hn, hend⟩ := ih (n / 10)
      refine ⟨zeros + 1, by omega, by omega, ?_, hend⟩
      rw [tenTo_succ, ← Nat.mul_assoc, ← hn]
      omega
    · rename_i hnot
      exact ⟨0, Nat.zero_le _, rfl, (Nat.mul_one n).symm, .inr hnot⟩

theorem scale_normalize_le (d : Decimal) : d.normalize.scale ≤ d.scale := by
  rw [normalize]
  split
  · exact Nat.zero_le _
  · exact (trimZeros_le _ _).2

/-- The normal form is the same number. -/
@[simp]
theorem value_normalize (d : Decimal) : d.normalize.value = d.value := by
  rw [normalize]
  split
  · rename_i hzero
    rw [value_zero, value_eq_zero_of_size hzero]
  · obtain ⟨zeros, hzeros, hscale, hsize, -⟩ := trimZeros_eq d.size d.scale
    have hpower : tenTo d.scale = tenTo (d.scale - zeros) * tenTo zeros :=
      (tenTo_sub_mul hzeros).symm
    rw [value_eq_signFactor, value_eq_signFactor]
    simp only [hscale]
    conv_rhs => rw [hsize, hpower]
    push_cast
    rw [← mul_assoc, mul_div_mul_right _ _ (cast_tenTo_ne_zero zeros)]

theorem isNormal_normalize (d : Decimal) : d.normalize.IsNormal := by
  rw [normalize]
  split
  · exact ⟨.inl rfl, fun _ => rfl⟩
  · rename_i hne
    obtain ⟨zeros, -, -, hsize, hend⟩ := trimZeros_eq d.size d.scale
    refine ⟨hend, fun hzero => ?_⟩
    rw [show (trimZeros d.size d.scale).1 = 0 from hzero, Nat.zero_mul] at hsize
    exact absurd hsize hne

/-- Only numbers below zero have a minus sign in normal form. -/
theorem IsNormal.negative_iff {d : Decimal} (h : d.IsNormal) : d.negative ↔ d.value < 0 := by
  rw [value_eq_signFactor]
  cases hnegative : d.negative with
  | false => simp [signFactor, div_nonneg]
  | true =>
    have hpos : 0 < d.size := by
      rcases Nat.eq_zero_or_pos d.size with hzero | hpos
      · rw [h.not_negative hzero] at hnegative
        cases hnegative
      · exact hpos
    refine iff_of_true rfl (div_neg_of_neg_of_pos ?_ (cast_tenTo_pos _))
    simpa [signFactor] using hpos

end Decimal

end DataGrid.Numeric
