import DataGrid.Proofs.Numeric.Rounding
import DataGrid.Proofs.Numeric.Value
import Mathlib.Tactic.FieldSimp
import Mathlib.Tactic.Linarith

/-!
# Sums of decimals

A sum that does not fit loses digits at its end, and those are rounded away. It is exact just
where the exact sum has a decimal at all, and it is missing just where the exact sum is rounded
beyond the limit even without places.

## Main definitions

* `Decimal.FitsWith`: how many digits are dropped

## Main results

* `Decimal.fit_eq_some`, `Decimal.fit_eq_none_iff`: what fitting a fraction answers
* `Decimal.fit_value_eq_iff`: a fitted fraction is exact just where it has a decimal
* `Decimal.add_value_eq_iff`, `Decimal.exists_add_of_representable`: the same for sums
* `Decimal.add_eq_none_iff`: which sums are missing
-/

namespace DataGrid.Numeric.Decimal

variable {n : ℤ} {scale : Nat} {x y z : Decimal}

/-! ## Sizes within the limits -/

theorem ofSize?_eq_none_iff {negative : Bool} {size : Nat} (hscale : scale ≤ 28) :
    ofSize? negative size scale = none ↔ twoTo 96 ≤ size := by
  rw [ofSize?]
  split_ifs with h
  · simpa using h.1
  · simp only [true_iff]
    exact Nat.le_of_not_lt fun hlt => h ⟨hlt, hscale⟩

theorem value_of_ofSize? {negative : Bool} {size : Nat}
    (h : ofSize? negative size scale = some z) :
    z.value = (signFactor negative * size : ℤ) / tenTo scale ∧ z.scale = scale := by
  rw [ofSize?] at h
  split_ifs at h with hlimits
  obtain rfl := Option.some.inj h
  refine ⟨?_, rfl⟩
  rw [value_eq_signFactor]
  by_cases hsize : size = 0
  · simp [hsize]
  · simp [bne_iff_ne.mpr hsize]

/-! ## Fitting a fraction -/

/-- As many digits are dropped as it takes for the rest to be below the limit, and no more. -/
structure FitsWith (n : ℤ) (scale dropped : Nat) : Prop where
  le_scale : dropped ≤ scale
  lt_limit : roundEven n.natAbs (tenTo dropped) < twoTo 96
  least : ∀ k < dropped, twoTo 96 ≤ roundEven n.natAbs (tenTo k)

/-- **Fitting.** What is left when the digits are dropped, at the scale that is left. -/
theorem fit_eq_some (hscale : scale ≤ 28) (h : fit n scale = some z) :
    ∃ dropped, FitsWith n scale dropped ∧ z.scale = scale - dropped ∧
      z.value = (signFactor (n < 0) * roundEven n.natAbs (tenTo dropped) : ℤ) /
        tenTo (scale - dropped) := by
  obtain ⟨before, dropped, after, hrange, hsize, hbefore⟩ := List.findSome?_eq_some_iff.mp h
  -- the numbers of digits are tried in order, so those before are the smaller ones
  have hsplit : before = List.range dropped ∧ dropped < scale + 1 := by
    rw [List.range_eq_range', List.range'_eq_append_iff] at hrange
    obtain ⟨k, hk, hfront, hback⟩ := hrange
    obtain ⟨hfirst, hpos, -⟩ := List.range'_eq_cons_iff.mp hback.symm
    have hdropped : dropped = k := by omega
    exact ⟨by rw [hfront, hdropped, List.range_eq_range'], by omega⟩
  obtain ⟨rfl, hlt⟩ := hsplit
  have hle : scale - dropped ≤ 28 := by omega
  obtain ⟨hvalue, hz⟩ := value_of_ofSize? hsize
  refine ⟨dropped, ⟨by omega, ?_, fun k hk => ?_⟩, hz, hvalue⟩
  · -- the size that was found is within the limit
    refine Nat.lt_of_not_le fun hge => ?_
    rw [(ofSize?_eq_none_iff hle).mpr hge] at hsize
    cases hsize
  · -- those that were tried before are beyond it
    have hnone := hbefore k (List.mem_range.mpr hk)
    exact (ofSize?_eq_none_iff (by omega)).mp hnone

theorem fit_eq_none_iff (hscale : scale ≤ 28) :
    fit n scale = none ↔ ∀ k ≤ scale, twoTo 96 ≤ roundEven n.natAbs (tenTo k) := by
  rw [fit, List.findSome?_eq_none_iff]
  simp only [List.mem_range, Nat.lt_succ_iff]
  refine forall₂_congr fun k hk => ?_
  exact ofSize?_eq_none_iff (by omega)

/-- What dropping digits adds to a fraction. -/
theorem fit_value_sub {dropped : Nat} (h : dropped ≤ scale)
    (hz : z.value = (signFactor (n < 0) * roundEven n.natAbs (tenTo dropped) : ℤ) /
      tenTo (scale - dropped)) :
    z.value - n / tenTo scale =
      signFactor (n < 0) *
        ((roundEven n.natAbs (tenTo dropped) * tenTo dropped : ℤ) - n.natAbs : ℤ) /
          tenTo scale := by
  have hn : (n : ℚ) = (signFactor (n < 0) * n.natAbs : ℤ) := by rw [signFactor_mul_natAbs]
  have hscale := tenTo_sub_mul h
  have hpos := cast_tenTo_ne_zero (scale - dropped)
  have hpos' := cast_tenTo_ne_zero dropped
  conv_lhs => rw [hz, hn, ← hscale]
  rw [← hscale]
  push_cast
  field_simp

theorem signFactor_ne_zero (negative : Bool) : (signFactor negative : ℚ) ≠ 0 := by
  cases negative <;> simp [signFactor]

/-- A fitted fraction is exact just where the dropped digits are zeros. -/
theorem fit_value_eq_iff_dvd {dropped : Nat} (h : dropped ≤ scale)
    (hz : z.value = (signFactor (n < 0) * roundEven n.natAbs (tenTo dropped) : ℤ) /
      tenTo (scale - dropped)) :
    z.value = n / tenTo scale ↔ tenTo dropped ∣ n.natAbs := by
  rw [← sub_eq_zero, fit_value_sub h hz, div_eq_zero_iff, or_iff_left (cast_tenTo_ne_zero _),
    mul_eq_zero, or_iff_right (signFactor_ne_zero _), Int.cast_eq_zero, sub_eq_zero,
    ← Nat.cast_mul, Nat.cast_inj, roundEven_mul_eq_iff (tenTo_pos _)]

/-- Where a fraction has a decimal, digits are dropped only as far as they are zeros. -/
theorem FitsWith.dvd_of_representable {dropped : Nat} (hscale : scale ≤ 28)
    (hfits : FitsWith n scale dropped) (h : Representable (n / tenTo scale)) :
    tenTo dropped ∣ n.natAbs := by
  obtain ⟨k, hk, hdvd, hlt⟩ := (representable_iff hscale).mp h
  -- dropping the zeros is enough, so no more digits than these are dropped
  have hround : roundEven n.natAbs (tenTo k) < twoTo 96 := by
    obtain ⟨c, hc⟩ := hdvd
    rw [hc, Nat.mul_div_cancel_left _ (tenTo_pos k)] at hlt
    rwa [hc, Nat.mul_comm, roundEven_mul c (tenTo_pos k)]
  have hle : dropped ≤ k := Nat.le_of_not_lt fun hlt' =>
    absurd (hfits.least k hlt') (Nat.not_le_of_lt hround)
  exact (tenTo_dvd hle).trans hdvd

/-- **Exact fractions.** A fitted fraction is exact just where it has a decimal. -/
theorem fit_value_eq_iff (hscale : scale ≤ 28) (h : fit n scale = some z) :
    z.value = n / tenTo scale ↔ Representable (n / tenTo scale) := by
  obtain ⟨dropped, hfits, -, hz⟩ := fit_eq_some hscale h
  rw [fit_value_eq_iff_dvd hfits.le_scale hz]
  constructor
  · -- a fitted fraction that is exact is the decimal that is asked for
    intro hdvd
    exact ⟨z, (fit_value_eq_iff_dvd hfits.le_scale hz).mpr hdvd⟩
  · exact hfits.dvd_of_representable hscale

theorem fit_ne_none_of_representable (hscale : scale ≤ 28)
    (h : Representable (n / tenTo scale)) : fit n scale ≠ none := by
  intro hnone
  obtain ⟨k, hk, ⟨c, hc⟩, hlt⟩ := (representable_iff hscale).mp h
  have hround := (fit_eq_none_iff hscale).mp hnone k hk
  rw [hc, Nat.mul_comm, roundEven_mul c (tenTo_pos k)] at hround
  rw [hc, Nat.mul_div_cancel_left _ (tenTo_pos k)] at hlt
  omega

/-! ## Sums -/

theorem add_of_size_ne_zero (hx : x.size ≠ 0) (hy : y.size ≠ 0) :
    x.add y = fit (x.coefficientAt (max x.scale y.scale) + y.coefficientAt (max x.scale y.scale))
      (max x.scale y.scale) := by
  rw [add, if_neg hx, if_neg hy]

/-- The exact sum as a fraction at the larger scale. -/
theorem value_add_value (x y : Decimal) :
    x.value + y.value =
      (x.coefficientAt (max x.scale y.scale) + y.coefficientAt (max x.scale y.scale) : ℤ) /
        tenTo (max x.scale y.scale) := by
  rw [value_eq_coefficientAt (Nat.le_max_left x.scale y.scale),
    value_eq_coefficientAt (Nat.le_max_right x.scale y.scale), ← add_div]
  push_cast
  rfl

theorem max_scale_le (x y : Decimal) : max x.scale y.scale ≤ 28 :=
  Nat.max_le.mpr ⟨x.scale_le, y.scale_le⟩

/-- **Exact sums.** A sum is exact just where the exact sum has a decimal. -/
theorem add_value_eq_iff (h : x.add y = some z) :
    z.value = x.value + y.value ↔ Representable (x.value + y.value) := by
  by_cases hx : x.size = 0
  · rw [add, if_pos hx] at h
    obtain rfl := Option.some.inj h
    simp [value_eq_zero_of_size hx, Representable]
  by_cases hy : y.size = 0
  · rw [add, if_neg hx, if_pos hy] at h
    obtain rfl := Option.some.inj h
    simp [value_eq_zero_of_size hy, Representable]
  rw [add_of_size_ne_zero hx hy] at h
  rw [value_add_value]
  exact fit_value_eq_iff (max_scale_le x y) h

/-- A sum is there, and exact, where the exact sum has a decimal. -/
theorem exists_add_of_representable (h : Representable (x.value + y.value)) :
    ∃ z, x.add y = some z ∧ z.value = x.value + y.value := by
  have hsome : x.add y ≠ none := by
    by_cases hx : x.size = 0
    · simp [add, hx]
    by_cases hy : y.size = 0
    · simp [add, hx, hy]
    rw [add_of_size_ne_zero hx hy]
    rw [value_add_value] at h
    exact fit_ne_none_of_representable (max_scale_le x y) h
  obtain ⟨z, hz⟩ := Option.ne_none_iff_exists'.mp hsome
  exact ⟨z, hz, (add_value_eq_iff hz).mpr h⟩

/-! ## Missing sums -/

theorem le_roundEven_limit_iff (m k : Nat) :
    twoTo 96 ≤ roundEven m (tenTo k) ↔ (2 * twoTo 96 - 1) * tenTo k ≤ 2 * m :=
  le_roundEven_iff (tenTo_pos k) (by decide) (by decide)

/-- A fraction is not fitted just where even its whole part is rounded to the limit or beyond. -/
theorem fit_eq_none_iff_le (hscale : scale ≤ 28) :
    fit n scale = none ↔ (twoTo 96 - 1 / 2 : ℚ) ≤ |(n / tenTo scale : ℚ)| := by
  have hlimit : ((2 * twoTo 96 - 1 : Nat) : ℚ) = 2 * twoTo 96 - 1 := by
    rw [Nat.cast_sub (by decide)]
    push_cast
    rfl
  have hcast : (2 * twoTo 96 - 1) * tenTo scale ≤ 2 * n.natAbs ↔
      (2 * twoTo 96 - 1 : ℚ) * tenTo scale ≤ 2 * |(n : ℚ)| := by
    rw [← hlimit, ← Int.cast_abs, ← Int.natCast_natAbs]
    exact_mod_cast Iff.rfl
  have hwhole : (twoTo 96 - 1 / 2 : ℚ) ≤ |(n / tenTo scale : ℚ)| ↔
      (2 * twoTo 96 - 1) * tenTo scale ≤ 2 * n.natAbs := by
    rw [hcast, abs_div, Nat.abs_cast, le_div_iff₀ (cast_tenTo_pos scale)]
    constructor <;> intro h <;> linarith
  rw [fit_eq_none_iff hscale, hwhole]
  simp only [le_roundEven_limit_iff]
  -- what is beyond the limit without places is so with places
  refine ⟨fun h => h scale le_rfl, fun h k hk => ?_⟩
  exact (Nat.mul_le_mul_left _ (Nat.pow_le_pow_right (by decide) hk)).trans h

theorem abs_value_lt (d : Decimal) : |d.value| < twoTo 96 - 1 / 2 := by
  have hsize : (d.size : ℚ) + 1 ≤ twoTo 96 := by exact_mod_cast d.size_lt
  have hle : |d.value| ≤ d.size := by
    rw [abs_value]
    exact div_le_self (Nat.cast_nonneg _) (by exact_mod_cast tenTo_pos d.scale)
  linarith

/-- **Missing sums.** A sum is missing just where the exact sum is rounded to the limit or beyond
even without places. -/
theorem add_eq_none_iff (x y : Decimal) :
    x.add y = none ↔ (twoTo 96 - 1 / 2 : ℚ) ≤ |x.value + y.value| := by
  by_cases hx : x.size = 0
  · rw [value_eq_zero_of_size hx, zero_add, add, if_pos hx]
    exact iff_of_false (by simp) (abs_value_lt y).not_ge
  by_cases hy : y.size = 0
  · rw [value_eq_zero_of_size hy, add_zero, add, if_neg hx, if_pos hy]
    exact iff_of_false (by simp) (abs_value_lt x).not_ge
  rw [add_of_size_ne_zero hx hy, value_add_value, fit_eq_none_iff_le (max_scale_le x y)]

end DataGrid.Numeric.Decimal
