import DataGrid.Numeric.Digits
import DataGrid.Numeric.Power
import DataGrid.Numeric.Rounding

/-!
# Doubles

Floating-point numbers with 53 significant bits, as exact fractions: a whole significand
times a power of two. Arithmetic is exact and rounded once, half to even.

## Main definitions

* `Binary64`: sign, significand and exponent
* `Binary64.ofRatio?`: the double nearest to a quotient, unless it is too large
* `Binary64.mul?`, `Binary64.div?`: rounded product and quotient
* `Binary64.shortest`: the fewest digits that read back as the double
* `Binary64.text`, `Binary64.positional`: written forms
-/

namespace DataGrid.Numeric

/-- **Double.** The number `significand * 2 ^ exponent` with a sign. Zero has exponent zero. -/
structure Binary64 where
  negative : Bool
  significand : Nat
  exponent : Int
  deriving Repr, DecidableEq

namespace Binary64

/-- A power of two as a quotient of whole numbers. -/
def powerOfTwo (e : Int) : Nat × Nat := if 0 ≤ e then (twoTo e.toNat, 1) else (1, twoTo (-e).toNat)

/-- The significand that `n / d` has for an exponent, rounded half to even. -/
def significandAt (n d : Nat) (e : Int) : Nat :=
  let (up, down) := powerOfTwo e
  roundEven (n * down) (d * up)

/-- **Nearest double.** The double nearest to `n / d`, absent if that is beyond the largest. -/
def ofRatio? (negative : Bool) (n d : Nat) : Option Binary64 :=
  if n = 0 then some ⟨negative, 0, 0⟩
  else
    let estimate : Int := (n.log2 : Int) - d.log2 - 53
    let (up, down) := powerOfTwo estimate
    let exact := if n * down / (d * up) < twoTo 53 then estimate else estimate + 1
    let exponent := max exact (-1074)
    let m := significandAt n d exponent
    if m = 0 then some ⟨negative, 0, 0⟩
    else
      let (m, exponent) :=
        if m = twoTo 53 then (twoTo 52, exponent + 1) else (m, exponent)
      if 971 < exponent then none else some ⟨negative, m, exponent⟩

/-- The size of a double as a quotient of whole numbers. -/
def ratio (x : Binary64) : Nat × Nat :=
  let (up, down) := powerOfTwo x.exponent
  (x.significand * up, down)

/-- The double nearest to a product, absent if it is too large. -/
def mul? (x y : Binary64) : Option Binary64 :=
  ofRatio? (x.negative != y.negative) (x.ratio.1 * y.ratio.1) (x.ratio.2 * y.ratio.2)

/-- The double nearest to a quotient, absent if it is too large. -/
def div? (x y : Binary64) : Option Binary64 :=
  ofRatio? (x.negative != y.negative) (x.ratio.1 * y.ratio.2) (x.ratio.2 * y.ratio.1)

/-- The double nearest to a power of ten up to 10 ^ 308. -/
def powerOfTen (k : Nat) : Binary64 := (ofRatio? false (tenTo k) 1).getD ⟨false, 0, 0⟩

/-- A double divided by a power of ten. Powers above 10 ^ 308 are divided off in steps of
10 ^ 308, each rounded, until nothing is left. -/
def scaleDown (x : Binary64) (k : Nat) : Binary64 :=
  if x.significand = 0 then x
  else if 308 < k then scaleDown ((x.div? (powerOfTen 308)).getD x) (k - 308)
  else (x.div? (powerOfTen k)).getD x
termination_by k
decreasing_by omega

/-- A whole number times a power of ten, rounded first as a number and then as a product;
absent if it is too large. -/
def ofDecimal? (negative : Bool) (n : Nat) (power : Int) : Option Binary64 := do
  let x ← ofRatio? negative n 1
  if power < 0 then some (x.scaleDown (-power).toNat)
  else if x.significand = 0 then some x
  else if 308 < power then none
  else x.mul? (powerOfTen power.toNat)

/-- Whether a quotient is read back as the double `m * 2 ^ e`: it lies between the middles
to the neighbours, ends included if the significand is even. Below a power of two the
neighbour is half as far away. -/
def readsBack (m : Nat) (e : Int) (n d : Nat) : Bool :=
  let (up, down) := powerOfTwo (e - 2)
  let low := if m = twoTo 52 ∧ -1074 < e then 4 * m - 1 else 4 * m - 2
  let high := 4 * m + 2
  if m % 2 = 0 then low * up * d ≤ n * down && n * down ≤ high * up * d
  else low * up * d < n * down && n * down < high * up * d

/-- The whole number of digits before the point of `n / d`, zero or less for small ones: the
`k` with `10 ^ (k - 1) ≤ n / d < 10 ^ k`, for a quotient that is not zero. -/
def magnitude (n d : Nat) : Int :=
  if d ≤ n then ((digits (n / d)).length : Int)
  else 1 - (digits ((d + n - 1) / n - 1)).length

/-- The neighbours of `n / d` on the grid of multiples of `10 ^ k` that read back, the
nearer one first in line. The rounding says which of two equally near ones that is. -/
def onGrid (round : Nat → Nat → Nat) (m : Nat) (e : Int) (n d : Nat) (k : Int) : Option Nat :=
  let (up, down) : Nat × Nat := if 0 ≤ k then (tenTo k.toNat, 1) else (1, tenTo (-k).toNat)
  let below := n * down / (d * up)
  let nearest := round (n * down) (d * up)
  let other := if nearest = below then below + 1 else below
  let hits := fun c => 0 < c && readsBack m e (c * up) down
  if hits nearest then some nearest else if hits other then some other else none

/-- **Shortest digits.** The number `c * 10 ^ k` with the fewest digits that reads back as a
double that is not zero, and among those the nearest, by a rounding. -/
def shortest (round : Nat → Nat → Nat) (x : Binary64) : Nat × Int :=
  let (n, d) := x.ratio
  let top := magnitude n d
  let found := (List.range 17).findSome? fun (count : Nat) =>
    let k := top - ((count : Int) + 1)
    (onGrid round x.significand x.exponent n d k).map fun c => (c, k)
  found.getD (x.significand, 0)

/-- Digits and a power of ten without trailing zeros. -/
def trimmed (c : Nat) (k : Int) : List Char × Int :=
  let ds := digits c
  let zeros := (ds.reverse.takeWhile (· = '0')).length
  (ds.take (ds.length - zeros), k + zeros)

/-- Digits times a power of ten, written without an exponent. -/
def positionalChars (ds : List Char) (k : Int) : List Char × List Char :=
  if 0 ≤ k then (ds ++ List.replicate k.toNat '0', [])
  else
    let places := (-k).toNat
    if places < ds.length then (ds.take (ds.length - places), ds.drop (ds.length - places))
    else (['0'], List.replicate (places - ds.length) '0' ++ ds)

/-- **Written form.** The shortest digits, the last of them even if two are equally near;
positional between 10 ^ -5 and 10 ^ 16 with at least one place, otherwise with one digit before
the point and an exponent behind its sign. -/
def chars (x : Binary64) : List Char :=
  let sign := if x.negative then ['-'] else []
  if x.significand = 0 then sign ++ ['0', '.', '0']
  else
    let c := x.shortest roundEven
    let (ds, k) := trimmed c.1 c.2
    let e := k + ds.length - 1
    if -5 ≤ e ∧ e ≤ 15 then
      let (whole, places) := positionalChars ds k
      sign ++ whole ++ '.' :: (if places.isEmpty then ['0'] else places)
    else
      sign ++ ds.take 1 ++ (if ds.length = 1 then [] else '.' :: ds.drop 1) ++
        'e' :: signedPadded 1 e

/-- The shortest digits, the larger of two that are equally near, without an exponent and
without a point that nothing follows. -/
def positional (x : Binary64) : List Char :=
  let sign := if x.negative then ['-'] else []
  if x.significand = 0 then sign ++ ['0']
  else
    let c := x.shortest roundUp
    let (ds, k) := trimmed c.1 c.2
    let (whole, places) := positionalChars ds k
    sign ++ whole ++ (if places.isEmpty then [] else '.' :: places)

end Binary64

end DataGrid.Numeric
