import DataGrid.Numeric.Digits
import DataGrid.Numeric.Power

/-!
# Digits of numbers

## Main results

* `isDigit_of_mem_digits`: a number is written with digits
* `digits_eq_cons`: a number has a first digit, which is zero only for zero itself
* `getLast?_digits`: a number ends in its rest by ten
* `signed_inj`: different integers are written differently
* `valueOf_padded`, `length_padded`: a number behind leading zeros
* `takeDigits_append`: the digits at the start of a text are taken off
* `natOfText?_eq_some_iff`: which texts are read as a number
-/

namespace DataGrid.Numeric

theorem isDigit_of_mem_digits {n : Nat} {c : Char} (h : c ∈ digits n) : c.isDigit :=
  Nat.isDigit_of_mem_toDigits (by decide) (by decide) h

theorem digitChar_ne_zero : ∀ d < 10, 0 < d → d.digitChar ≠ '0' := by decide

/-- A number other than zero does not start with a zero. -/
theorem head?_digits_ne {n : Nat} (hn : 0 < n) : (digits n).head? ≠ some '0' := by
  -- Induction on the number: all digits but the last are those of a tenth of it.
  induction n using Nat.strongRecOn with
  | ind n ih =>
    rw [digits, Nat.toDigits_eq_if (by decide)]
    split
    · rename_i hlt
      exact fun h => digitChar_ne_zero n hlt hn (Option.some.inj h)
    · have hrest := ih (n / 10) (by omega) (by omega)
      rwa [List.head?_append, Option.or_of_isSome (by simp)]

/-- **First digit.** A number has a first digit, which is zero only for zero itself. -/
theorem digits_eq_cons (n : Nat) :
    ∃ d ds, digits n = d :: ds ∧ d.isDigit ∧ (∀ c ∈ ds, c.isDigit) ∧ (d = '0' → ds = []) := by
  obtain ⟨d, ds, hdigits⟩ := List.exists_cons_of_ne_nil (Nat.toDigits_ne_nil (n := n) (b := 10))
  have hall : ∀ c ∈ d :: ds, c.isDigit := fun c hc =>
    isDigit_of_mem_digits (n := n) (by rwa [digits, hdigits])
  refine ⟨d, ds, hdigits, hall d List.mem_cons_self,
    fun c hc => hall c (List.mem_cons_of_mem d hc), fun hzero => ?_⟩
  rcases Nat.eq_zero_or_pos n with rfl | hn
  · exact (List.cons.inj hdigits).2.symm
  · exact absurd (by rw [digits, hdigits, hzero]; rfl) (head?_digits_ne hn)

/-- **Last digit.** A number ends in its rest by ten. -/
theorem getLast?_digits (n : Nat) : (digits n).getLast? = some (n % 10).digitChar := by
  rw [digits, Nat.toDigits_eq_if (by decide)]
  split
  · rename_i hlt
    rw [Nat.mod_eq_of_lt hlt]
    rfl
  · exact List.getLast?_concat

theorem digits_inj {a b : Nat} : digits a = digits b ↔ a = b := by
  refine ⟨fun h => ?_, congrArg digits⟩
  rw [← valueOf_digits a, h, valueOf_digits]

/-- A minus sign is no digit. -/
theorem minus_cons_ne_digits (s : List Char) (n : Nat) : '-' :: s ≠ digits n := by
  intro h
  have hminus : '-' ∈ digits n := h ▸ List.mem_cons_self
  exact absurd (isDigit_of_mem_digits hminus) (by decide)

/-- **Different integers are written differently.** -/
theorem signed_inj {a b : Int} : signed a = signed b ↔ a = b := by
  refine ⟨fun h => ?_, congrArg signed⟩
  rw [signed, signed] at h
  split at h
  · split at h
    · have hnatAbs := digits_inj.mp (List.cons.inj h).2
      omega
    · exact absurd h (minus_cons_ne_digits _ _)
  · split at h
    · exact absurd h.symm (minus_cons_ne_digits _ _)
    · have hnatAbs := digits_inj.mp h
      omega

/-! ## Digits up to a width -/

theorem isDigit_of_mem_padded {width n : Nat} {c : Char} (h : c ∈ padded width n) : c.isDigit := by
  rcases List.mem_append.mp h with hzero | hdigit
  · rw [List.eq_of_mem_replicate hzero]
    rfl
  · exact isDigit_of_mem_digits hdigit

theorem padded_eq_cons (width n : Nat) : ∃ d ds, padded width n = d :: ds ∧ d.isDigit := by
  obtain ⟨d, ds, hdigits⟩ := List.exists_cons_of_ne_nil
    (List.append_ne_nil_of_right_ne_nil (List.replicate (width - (digits n).length) '0')
      (Nat.toDigits_ne_nil (n := n) (b := 10)))
  have hpadded : padded width n = d :: ds := hdigits
  exact ⟨d, ds, hpadded, isDigit_of_mem_padded (hpadded ▸ List.mem_cons_self)⟩

theorem padded_append_ne_cons {width n : Nat} {c : Char} (hc : ¬ c.isDigit) (rest s : List Char) :
    padded width n ++ rest ≠ c :: s := by
  obtain ⟨d, ds, hpadded, hd⟩ := padded_eq_cons width n
  rw [hpadded]
  rintro ⟨⟩
  exact hc hd

/-- Leading zeros do not count. -/
theorem valueOf_padded (width n : Nat) : valueOf (padded width n) = n := by
  rw [valueOf, padded, filled, Nat.ofDigitChars_append, Nat.ofDigitChars_replicate_zero,
    Nat.mul_zero]
  exact valueOf_digits n

/-- A number is written with at most so many digits just where it is below the power of ten. -/
theorem length_digits_le_iff {n width : Nat} (hwidth : 0 < width) :
    (digits n).length ≤ width ↔ n < tenTo width :=
  Nat.length_toDigits_le_iff (by decide) hwidth

/-- **Width.** Numbers below a power of ten fill its width. -/
theorem length_padded {width n : Nat} (hwidth : 0 < width) (h : n < tenTo width) :
    (padded width n).length = width := by
  have hdigits := (length_digits_le_iff hwidth).mpr h
  rw [padded, filled, List.length_append, List.length_replicate]
  omega

/-- Leading zeros leave the end of a number as it is. -/
theorem getLast?_padded (width n : Nat) :
    (padded width n).getLast? = some (n % 10).digitChar := by
  rw [padded, filled, List.getLast?_append, getLast?_digits]
  rfl

/-! ## Digits at the start of a text -/

/-- **Taking digits.** They end where the limit is reached or no digit follows. -/
theorem takeDigits_append {limit : Nat} {ds rest : List Char} (hds : ∀ c ∈ ds, c.isDigit)
    (hlimit : ds.length ≤ limit)
    (hrest : ds.length = limit ∨ ∀ c ∈ rest.head?, ¬ c.isDigit) :
    takeDigits limit (ds ++ rest) = (ds, rest) := by
  induction ds generalizing limit with
  | nil =>
    cases limit with
    | zero => rfl
    | succ limit =>
      -- nothing follows, or something that is no digit
      cases rest with
      | nil => rfl
      | cons c rest =>
        have hc : ¬ c.isDigit := (hrest.resolve_left (Nat.succ_ne_zero limit).symm) c rfl
        rw [List.nil_append, takeDigits, if_neg hc]
  | cons d ds ih =>
    obtain ⟨hd, hds⟩ := List.forall_mem_cons.mp hds
    cases limit with
    | zero => exact absurd hlimit (Nat.not_succ_le_zero _)
    | succ limit =>
      have htail := ih hds (Nat.le_of_succ_le_succ hlimit)
        (hrest.imp_left fun h => Nat.succ.inj h)
      rw [List.cons_append, takeDigits, if_pos hd, htail]

/-! ## Texts that are numbers -/

/-- **Numbers behind a plus sign.** A text is read as a number if it is a row of digits, alone or
behind a plus sign. -/
theorem natOfText?_eq_some_iff {s : List Char} {n : Nat} :
    natOfText? s = some n ↔
      ∃ (plus : Bool) (ds : List Char), s = (if plus then '+' :: ds else ds) ∧ ds ≠ [] ∧
        (∀ c ∈ ds, c.isDigit) ∧ valueOf ds = n := by
  have hnumeral : ∀ ds : List Char, isNumeral ds ↔ ds ≠ [] ∧ ∀ c ∈ ds, c.isDigit := by
    simp [isNumeral]
  have hread : ∀ ds : List Char, (if isNumeral ds then some (valueOf ds) else none) = some n ↔
      ds ≠ [] ∧ (∀ c ∈ ds, c.isDigit) ∧ valueOf ds = n := by
    intro ds
    simp only [Option.ite_none_right_eq_some, Option.some.injEq, hnumeral, and_assoc]
  constructor
  · intro h
    unfold natOfText? at h
    split at h
    · exact ⟨true, _, rfl, (hread _).mp h⟩
    · exact ⟨false, _, rfl, (hread _).mp h⟩
  · rintro ⟨plus, ds, rfl, hds⟩
    cases plus with
    | true => exact (hread ds).mpr hds
    | false =>
      unfold natOfText?
      split
      · -- a plus sign is no digit
        rename_i rest heq
        obtain rfl : ds = '+' :: rest := heq
        exact absurd (hds.2.1 '+' List.mem_cons_self) (by decide)
      · exact (hread ds).mpr hds

end DataGrid.Numeric
