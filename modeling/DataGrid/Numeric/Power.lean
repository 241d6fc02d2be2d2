/-!
# Powers

Powers of two count what a word can hold; powers of ten move the point of a decimal.

## Main definitions

* `twoTo`, `tenTo`: powers of two and of ten

## Main results

* `two_le_tenTo`: a power of ten that is not one is at least two
-/

namespace DataGrid.Numeric

/-- **Power of two.** How many numbers can be written with `k` bits. -/
def twoTo (k : Nat) : Nat := Nat.pow 2 k

/-- **Power of ten.** How many numbers can be written with `k` digits. -/
def tenTo (k : Nat) : Nat := Nat.pow 10 k

theorem tenTo_succ (k : Nat) : tenTo (k + 1) = tenTo k * 10 := rfl

theorem tenTo_pos (k : Nat) : 0 < tenTo k := by
  induction k with
  | zero => decide
  | succ k ih => rw [tenTo_succ]; omega

theorem two_le_tenTo {k : Nat} (hk : 0 < k) : 2 ≤ tenTo k := by
  cases k with
  | zero => exact absurd hk (Nat.lt_irrefl 0)
  | succ k =>
    have := tenTo_pos k
    rw [tenTo_succ]
    omega

end DataGrid.Numeric
