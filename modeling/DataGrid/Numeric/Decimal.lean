import DataGrid.Numeric.Digits
import DataGrid.Numeric.Power
import DataGrid.Numeric.Rounding

/-!
# Decimal numbers

A decimal is a whole size below 2 ^ 96 with a sign, divided by a power of ten up to 10 ^ 28.
The power is part of the value: 10.5 and 10.50 are two decimals for one number.

## Main definitions

* `Decimal`: sign, size and scale within their limits
* `Decimal.fit`: a fraction with as few digits dropped as the limits ask for
* `Decimal.add`, `Decimal.sub`: sum and difference, absent when they do not fit
* `Decimal.round`, `Decimal.shorten`, `Decimal.normalize`: fewer places, and no trailing zeros

## Main results

* `Decimal.trimZeros_le`: taking off trailing zeros never enlarges a size
-/

namespace DataGrid.Numeric

/-- **Decimal.** The number `size / 10 ^ scale` with a sign. -/
structure Decimal where
  /-- Whether there is a minus sign. A number that was rounded to zero may keep its own. -/
  negative : Bool
  /-- The number without its sign and its point. -/
  size : Nat
  /-- How many digits stand after the point. -/
  scale : Nat
  size_lt : size < twoTo 96
  scale_le : scale ≤ 28
  deriving Repr, DecidableEq

namespace Decimal

/-- The number without its point. -/
def coefficient (d : Decimal) : Int := if d.negative then -(d.size : Int) else d.size

/-- The decimal with a given size and scale, if they are within the limits. Zero has no minus
sign. -/
def ofSize? (negative : Bool) (size scale : Nat) : Option Decimal :=
  if h : size < twoTo 96 ∧ scale ≤ 28 then some ⟨negative && size != 0, size, scale, h.1, h.2⟩
  else none

/-- The decimal with a given coefficient and scale, if they are within the limits. -/
def ofParts? (coefficient : Int) (scale : Nat) : Option Decimal :=
  ofSize? (coefficient < 0) coefficient.natAbs scale

/-- Zero without places. -/
def zero : Decimal := ⟨false, 0, 0, by decide, by decide⟩

instance : Inhabited Decimal := ⟨zero⟩

/-- The decimal for a 64-bit integer. -/
def ofInt64 (n : Int64) : Decimal :=
  ⟨n.toInt < 0, n.toInt.natAbs, 0, by
    have hsize : 2 ^ 63 < twoTo 96 := by decide
    have hlt := n.toInt_lt
    have hle := n.le_toInt
    omega, by decide⟩

/-- The decimal for `n / 10 ^ scale`. While the size is too large its last digit is dropped;
what is dropped in all is rounded half to even. Without places to drop there is no decimal. -/
def fit (n : Int) (scale : Nat) : Option Decimal :=
  (List.range (scale + 1)).findSome? fun dropped =>
    ofSize? (n < 0) (roundEven n.natAbs (tenTo dropped)) (scale - dropped)

/-- The coefficient that the number has at a scale that is not smaller than its own. -/
def coefficientAt (d : Decimal) (scale : Nat) : Int := d.coefficient * tenTo (scale - d.scale)

/-- The number with the other sign, at the same scale. Zero stays as it is. -/
def neg (d : Decimal) : Decimal :=
  if d.size = 0 then d else { d with negative := !d.negative }

/-- **Sum.** A zero gives way to the other operand as it stands. Otherwise the sum has the
larger of the two scales, less the digits that do not fit. -/
def add (x y : Decimal) : Option Decimal :=
  if x.size = 0 then some y
  else if y.size = 0 then some x
  else
    let scale := max x.scale y.scale
    fit (x.coefficientAt scale + y.coefficientAt scale) scale

/-- **Difference.** The rules are those of the sum, with the second operand negated. -/
def sub (x y : Decimal) : Option Decimal :=
  if x.size = 0 then some y.neg
  else if y.size = 0 then some x
  else
    let scale := max x.scale y.scale
    fit (x.coefficientAt scale - y.coefficientAt scale) scale

/-- The number with at most `places` digits after the point, rounded half to even. What is
rounded to zero has no minus sign. -/
def round (d : Decimal) (places : Nat) : Decimal :=
  if h : places < d.scale then
    let size := roundEven d.size (tenTo (d.scale - places))
    ⟨d.negative && size != 0, size, places,
      Nat.lt_of_le_of_lt (roundEven_le (two_le_tenTo (by omega))) d.size_lt,
      Nat.le_of_lt (Nat.lt_of_lt_of_le h d.scale_le)⟩
  else d

/-- The number with at most `places` digits after the point, rounded half away from zero. What
is rounded to zero keeps its sign. -/
def shorten (d : Decimal) (places : Nat) : Decimal :=
  if h : places < d.scale then
    ⟨d.negative, roundUp d.size (tenTo (d.scale - places)), places,
      Nat.lt_of_le_of_lt (roundUp_le (two_le_tenTo (by omega))) d.size_lt,
      Nat.le_of_lt (Nat.lt_of_lt_of_le h d.scale_le)⟩
  else d

theorem shorten_scale_le (d : Decimal) (places : Nat) : (d.shorten places).scale ≤ places := by
  unfold shorten
  split
  · exact Nat.le_refl places
  · exact Nat.le_of_not_lt ‹_›

/-- A size and a scale without the zeros at the end of the places. -/
def trimZeros (n : Nat) : Nat → Nat × Nat
  | 0 => (n, 0)
  | scale + 1 => if n % 10 = 0 then trimZeros (n / 10) scale else (n, scale + 1)

theorem trimZeros_le (n scale : Nat) :
    (trimZeros n scale).1 ≤ n ∧ (trimZeros n scale).2 ≤ scale := by
  induction scale generalizing n with
  | zero => simp [trimZeros]
  | succ scale ih =>
    unfold trimZeros
    split
    · have := ih (n / 10)
      omega
    · simp

/-- **Normal form.** The same number without zeros at the end of its places, and without the
sign of a zero. -/
def normalize (d : Decimal) : Decimal :=
  if d.size = 0 then zero
  else
    ⟨d.negative, (trimZeros d.size d.scale).1, (trimZeros d.size d.scale).2,
      Nat.lt_of_le_of_lt (trimZeros_le _ _).1 d.size_lt,
      Nat.le_trans (trimZeros_le _ _).2 d.scale_le⟩

end Decimal

end DataGrid.Numeric
