import DataGrid.Numeric.DecimalText
import DataGrid.Proofs.Numeric.Digits

/-!
# Decimals that are read back

A decimal is written with all of its places, so its text tells its scale as well as its value.
Only the sign of a zero is lost: a zero is read without one.

## Main results

* `Decimal.ofDigits?_append`: a row of digits is read as far as there is room
* `Decimal.length_placeDigits`, `Decimal.ofDigitChars_placeDigits`: the digits of a decimal
* `Decimal.read?_text`: a written decimal is read back
-/

namespace DataGrid.Numeric.Decimal

/-- Digits never make a number smaller. -/
theorem le_ofDigitChars (ds : List Char) (n : Nat) : n ≤ Nat.ofDigitChars 10 ds n := by
  rw [Nat.ofDigitChars_eq_ofDigitChars_zero]
  have hpower : 0 < 10 ^ ds.length := Nat.pow_pos (by decide)
  exact Nat.le_trans (Nat.le_mul_of_pos_left n hpower) (Nat.le_add_right _ _)

/-- **Reading digits.** A row of digits for which there is room is taken up. Behind the point
it counts as places. -/
theorem ofDigits?_append {negative started pointed : Bool} {size scale : Nat} {ds : List Char}
    (rest : List Char) (hds : ∀ c ∈ ds, c.isDigit)
    (hsize : Nat.ofDigitChars 10 ds size < twoTo 96)
    (hscale : if pointed then scale + ds.length ≤ 28 else scale = 0) :
    ofDigits? negative size scale started pointed (ds ++ rest) =
      ofDigits? negative (Nat.ofDigitChars 10 ds size)
        (if pointed then scale + ds.length else 0) (started || !ds.isEmpty) pointed rest := by
  -- Induction on the digits: each one is taken up, since the number never shrinks.
  induction ds generalizing size scale started with
  | nil => cases pointed <;> simp_all
  | cons d ds ih =>
    obtain ⟨hd, hds⟩ := List.forall_mem_cons.mp hds
    rw [Nat.ofDigitChars_cons, Nat.mul_comm] at hsize
    have hnext : size * 10 + (d.toNat - '0'.toNat) < twoTo 96 :=
      Nat.lt_of_le_of_lt (le_ofDigitChars ds _) hsize
    have hroom : (started && pointed && decide (28 ≤ scale)) = false := by
      cases pointed <;> simp_all
      intro _
      omega
    rw [List.cons_append, ofDigits?, hroom, hd]
    simp only [Bool.false_eq_true, if_false, if_true]
    rw [if_pos hnext, ih hds hsize]
    · cases pointed <;> simp [Nat.ofDigitChars_cons, Nat.mul_comm, Nat.add_assoc, Nat.add_comm 1]
    · cases pointed <;> simp_all; omega

/-- A point may stand behind a digit, once. -/
theorem ofDigits?_point (negative : Bool) (size : Nat) (rest : List Char) :
    ofDigits? negative size 0 true false ('.' :: rest) =
      ofDigits? negative size 0 true true rest := by
  rw [ofDigits?]
  rfl

/-- A text that starts with a digit has no sign. -/
theorem ofText?_of_isDigit {c : Char} (hc : c.isDigit) (s : List Char) :
    ofText? (c :: s) = ofDigits? false 0 0 false false (c :: s) := by
  unfold ofText?
  split
  · rename_i heq
    obtain ⟨rfl, -⟩ := List.cons.inj heq
    exact absurd hc (by decide)
  · rename_i heq
    obtain ⟨rfl, -⟩ := List.cons.inj heq
    exact absurd hc (by decide)
  · rfl

variable (d : Decimal)

/-- The sign of a written decimal is read first. -/
theorem ofText?_chars :
    ofText? d.chars = ofDigits? d.negative 0 0 false false
      (d.wholeDigits ++ if d.scale = 0 then [] else '.' :: d.placeDigits) := by
  rw [chars, List.append_assoc]
  cases d.negative with
  | true => rfl
  | false =>
    obtain ⟨c, cs, hdigits, hc, -⟩ := digits_eq_cons (d.size / tenTo d.scale)
    rw [if_neg Bool.false_ne_true, List.nil_append, wholeDigits, hdigits, List.cons_append,
      ofText?_of_isDigit hc]

/-- The whole digits are read up to the point. -/
theorem ofDigits?_wholeDigits (rest : List Char) :
    ofDigits? d.negative 0 0 false false (d.wholeDigits ++ rest) =
      ofDigits? d.negative (d.size / tenTo d.scale) 0 true false rest := by
  have hvalue : Nat.ofDigitChars 10 d.wholeDigits 0 = d.size / tenTo d.scale :=
    valueOf_digits _
  have hne : d.wholeDigits.isEmpty = false :=
    List.isEmpty_eq_false_iff.mpr Nat.toDigits_ne_nil
  have hsize : d.size / tenTo d.scale < twoTo 96 :=
    Nat.lt_of_le_of_lt (Nat.div_le_self _ _) d.size_lt
  have hdigits : ∀ c ∈ d.wholeDigits, c.isDigit := fun c hc => isDigit_of_mem_digits hc
  rw [ofDigits?_append rest hdigits (by rwa [hvalue]) (by simp), hvalue, hne]
  rfl

/-- There are as many digits behind the point as the scale says. -/
theorem length_placeDigits : d.placeDigits.length = d.scale := by
  rw [placeDigits]
  split
  · rename_i hscale
    exact hscale.symm
  · rename_i hscale
    exact length_padded (Nat.pos_of_ne_zero hscale) (Nat.mod_lt _ (tenTo_pos _))

theorem isDigit_of_mem_placeDigits {c : Char} (hc : c ∈ d.placeDigits) : c.isDigit := by
  rw [placeDigits] at hc
  split at hc
  · cases hc
  · exact isDigit_of_mem_padded hc

/-- **Size.** The digits on both sides of the point make up the size. -/
theorem ofDigitChars_placeDigits :
    Nat.ofDigitChars 10 d.placeDigits (d.size / tenTo d.scale) = d.size := by
  rw [placeDigits]
  split
  · rename_i hscale
    rw [hscale]
    exact Nat.div_one d.size
  rename_i hscale
  have hlength := d.length_placeDigits
  rw [placeDigits, if_neg hscale] at hlength
  calc Nat.ofDigitChars 10 (padded d.scale (d.size % tenTo d.scale)) (d.size / tenTo d.scale)
    _ = tenTo d.scale * (d.size / tenTo d.scale) + valueOf (padded d.scale _) := by
        rw [Nat.ofDigitChars_eq_ofDigitChars_zero, hlength]
        rfl
    _ = tenTo d.scale * (d.size / tenTo d.scale) + d.size % tenTo d.scale := by
        rw [valueOf_padded]
    _ = d.size := Nat.div_add_mod d.size (tenTo d.scale)

/-- The places go on with the whole digits, up to the end. -/
theorem ofDigits?_placeDigits :
    ofDigits? d.negative (d.size / tenTo d.scale) 0 true true d.placeDigits =
      ofSize? d.negative d.size d.scale := by
  have hvalue := d.ofDigitChars_placeDigits
  have hread := @ofDigits?_append d.negative true true (d.size / tenTo d.scale) 0 d.placeDigits []
    (fun c hc => d.isDigit_of_mem_placeDigits hc) (by rw [hvalue]; exact d.size_lt)
    (by simpa [d.length_placeDigits] using d.scale_le)
  rw [List.append_nil, hvalue, d.length_placeDigits, Nat.zero_add] at hread
  rw [hread]
  rfl

/-- A decimal is the one of its size, if it is no zero with a minus sign. -/
theorem ofSize?_size (h : d.size = 0 → d.negative = false) :
    ofSize? d.negative d.size d.scale = some d := by
  rw [ofSize?, dif_pos ⟨d.size_lt, d.scale_le⟩]
  obtain ⟨negative, size, scale, hsize, hscale⟩ := d
  cases size with
  | zero =>
    cases h rfl
    rfl
  | succ size => cases negative <;> rfl

/-- **Reading back a decimal.** It has the same sign, size and scale. -/
theorem read?_text (h : d.size = 0 → d.negative = false) : read? d.text = some d := by
  have hread : ofText? d.chars = ofSize? d.negative d.size d.scale := by
    rw [ofText?_chars, ofDigits?_wholeDigits]
    by_cases hscale : d.scale = 0
    · -- without places the text ends with the whole digits
      have hsize : d.size / tenTo d.scale = d.size := by
        rw [hscale]
        exact Nat.div_one d.size
      rw [if_pos hscale, hsize, hscale]
      rfl
    · rw [if_neg hscale, ofDigits?_point, ofDigits?_placeDigits d]
  rw [read?, text, String.toList_ofList, hread, ofSize?_size d h]
  rfl

end DataGrid.Numeric.Decimal
