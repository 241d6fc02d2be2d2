import DataGrid.Proofs.Numeric.DecimalText
import DataGrid.Proofs.Numeric.NearestEven

/-!
# One normal form for each number

A number may have many decimals, one for each count of zeros behind its last place. Only one of them
is normal: it has the fewest places of all. So what is made from normal forms depends on the number
alone, and so does what a decimal is rounded to.

## Main results

* `Decimal.IsNormal.scale_le`: a normal decimal has the fewest places
* `Decimal.IsNormal.eq_of_value_eq`: a number has one normal decimal
* `Decimal.normalize_eq_normalize_iff`: decimals with one normal form
* `Decimal.text_normalize_eq_iff`: normal forms with one text
* `Decimal.value_round_congr`: decimals of one number are rounded to one number
-/

namespace DataGrid.Numeric.Decimal

variable {d d' : Decimal}

/-- Two decimals for one number, as an equation of whole numbers. -/
theorem size_mul_tenTo_of_value_eq (h : d.value = d'.value) :
    d.size * tenTo d'.scale = d'.size * tenTo d.scale := by
  have habs := congrArg abs h
  rw [abs_value, abs_value, div_eq_div_iff (cast_tenTo_ne_zero _) (cast_tenTo_ne_zero _)] at habs
  exact_mod_cast habs

namespace IsNormal

/-- **Fewest places.** No decimal for the number of a normal decimal has fewer places. -/
theorem scale_le (h : d.IsNormal) (hvalue : d.value = d'.value) : d.scale ≤ d'.scale := by
  refine Nat.le_of_not_lt fun hlt => ?_
  obtain ⟨zeros, hzeros⟩ : ∃ zeros, d.scale = zeros + 1 + d'.scale :=
    ⟨d.scale - d'.scale - 1, by omega⟩
  have hcross := size_mul_tenTo_of_value_eq hvalue
  -- with fewer places, the size of the normal decimal would end in a zero
  have hsize : d.size = d'.size * tenTo zeros * 10 := by
    apply Nat.eq_of_mul_eq_mul_right (tenTo_pos d'.scale)
    rw [hcross, hzeros, tenTo_add, tenTo_succ, Nat.mul_assoc d'.size, Nat.mul_assoc d'.size]
  have hend := h.scale_eq_zero_or.resolve_left (by omega)
  omega

/-- **One normal form.** A number has one normal decimal. -/
theorem eq_of_value_eq (h : d.IsNormal) (h' : d'.IsNormal) (hvalue : d.value = d'.value) :
    d = d' := by
  have hscale : d.scale = d'.scale :=
    Nat.le_antisymm (h.scale_le hvalue) (h'.scale_le hvalue.symm)
  have hsize : d.size = d'.size := by
    have hcross := size_mul_tenTo_of_value_eq hvalue
    rw [hscale] at hcross
    exact Nat.eq_of_mul_eq_mul_right (tenTo_pos _) hcross
  have hnegative : d.negative = d'.negative := by
    rw [Bool.eq_iff_iff, h.negative_iff, h'.negative_iff, hvalue]
  cases d
  cases d'
  cases hscale
  cases hsize
  cases hnegative
  rfl

/-- A normal decimal is its own normal form. -/
theorem normalize_eq (h : d.IsNormal) : d.normalize = d :=
  (isNormal_normalize d).eq_of_value_eq h (value_normalize d)

end IsNormal

/-- Decimals have one normal form just where they stand for one number. -/
theorem normalize_eq_normalize_iff : d.normalize = d'.normalize ↔ d.value = d'.value := by
  constructor
  · intro h
    rw [← value_normalize d, h, value_normalize]
  · intro h
    refine (isNormal_normalize d).eq_of_value_eq (isNormal_normalize d') ?_
    rwa [value_normalize, value_normalize]

/-- Normal forms are written alike just where they stand for one number. -/
theorem text_normalize_eq_iff : d.normalize.text = d'.normalize.text ↔ d.value = d'.value := by
  rw [← normalize_eq_normalize_iff]
  constructor
  · -- each of them is read back from its text
    intro h
    have hread := read?_text d.normalize (isNormal_normalize d).not_negative
    rw [h, read?_text d'.normalize (isNormal_normalize d').not_negative] at hread
    exact (Option.some.inj hread).symm
  · exact congrArg text

/-! ## Rounding -/

/-- A decimal with few enough places is left as it is. -/
theorem round_of_scale_le {places : Nat} (h : d.scale ≤ places) : d.round places = d :=
  dif_neg (Nat.not_lt_of_le h)

/-- **Rounded numbers.** Decimals of one number are rounded to one number. -/
theorem value_round_congr (h : d.value = d'.value) (places : Nat) :
    (d.round places).value = (d'.round places).value := by
  have hround := d.isNearestEven_round places
  rw [h] at hround
  exact hround.unique (d'.isNearestEven_round places)

/-! ## Whole numbers -/

theorem value_ofInt64 (n : Int64) : (ofInt64 n).value = n.toInt := by
  have hcoefficient : (ofInt64 n).coefficient = n.toInt := by
    simp only [coefficient, ofInt64, decide_eq_true_eq]
    split <;> omega
  rw [value, hcoefficient]
  exact div_one _

theorem isNormal_ofInt64 (n : Int64) : (ofInt64 n).IsNormal where
  scale_eq_zero_or := .inl rfl
  not_negative hzero := by
    have hzero : n.toInt.natAbs = 0 := hzero
    exact decide_eq_false (by omega)

/-- The decimal for a whole number is written as the whole number is. -/
theorem chars_ofInt64 (n : Int64) : (ofInt64 n).chars = signed n.toInt := by
  have hwhole : (ofInt64 n).wholeDigits = digits n.toInt.natAbs :=
    congrArg digits (Nat.div_one n.toInt.natAbs)
  have hscale : (ofInt64 n).scale = 0 := rfl
  have hnegative : (ofInt64 n).negative = decide (n.toInt < 0) := rfl
  rw [chars, hwhole, if_pos hscale, hnegative, List.append_nil, signed]
  by_cases h : n.toInt < 0 <;> simp [h]

end DataGrid.Numeric.Decimal
